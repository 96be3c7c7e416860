import Mathlib.Algebra.Ring.Nat
import SafeDescent.Proofs.Parser.Correspondence
import SafeDescent.Proofs.Parser.NumberedParsers
import SafeDescent.Proofs.Parser.RecordedBuildings

namespace SafeDescent

variable {ρ ε : Type} [Reader ρ ε] [Element ε] [DecidableEq ε] {library : Library ε}

/-- Parses with one parser in a row, each with what the earlier ones remember: what is parsed, what
is reported, and what is started in all. -/
inductive Parser.Parses (library : Library ε) (parser : Parser ε) :
    Store → List (Extent × ρ) → List (Report ρ) → List (Start ρ ε) → Store → Prop
  | nil (store : Store) : Parses library parser store [] [] [] store
  | cons {store state next last : Store} {fuel : Nat} {extent : Extent} {input : ρ}
      {report : Report ρ} {ended : Outcome ρ Value} {tasks : List (Extent × ρ)}
      {reports : List (Report ρ)} {starts more : List (Start ρ ε)} :
      store.parse library fuel extent parser input = some (report, next) →
      parser.Runs library input store.silence starts ended state →
      Parses library parser next tasks reports more last →
        Parses library parser store ((extent, input) :: tasks) (report :: reports)
          (starts ++ more) last

variable {parser : Parser ε} {store next last : Store} {fuel : Nat} {extent : Extent} {input : ρ}
  {report : Report ρ} {starts : List (Start ρ ε)} {reports : List (Report ρ)}
  {tasks : List (Extent × ρ)}

omit [DecidableEq ε] in
theorem Extent.close_buildings (extent : Extent) (ended : Outcome ρ Value) (store : Store) :
    (extent.close ended store).buildings = store.buildings := by
  unfold Extent.close
  split
  · exact List.count_cons_of_ne (by simp)
  · rfl

theorem Store.parse_built {state : Store} {ended : Outcome ρ Value}
    (parsed : store.parse library fuel extent parser input = some (report, next))
    (runs : parser.Runs library input store.silence starts ended state) (path : List Nat) :
    next.isBuilt path = true ↔
      store.isBuilt path = true ∨ ∃ start ∈ starts, start.Uses library path := by
  have atFirst (path : List Nat) : store.silence.isBuilt path = true ↔
      store.isBuilt path = true ∨ ∃ start ∈ ([] : List (Start ρ ε)), start.Uses library path := by
    simp [Store.isBuilt, Store.silence]
  have built := (parsing_tracks_built library store).evaluates [] atFirst
    (Parser.runs_iff_evaluates.mp runs) path
  rw [Store.parse_last parsed runs, Store.isBuilt, extent.close_built]
  exact built

theorem Store.parse_buildings
    (parsed : store.parse library fuel extent parser input = some (report, next)) :
    next.built.size = store.built.size + report.buildings := by
  obtain ⟨starts, ended, state, runs, -, rfl, records⟩ := Store.parse_runs parsed
  have counted := (parsing_tracks_buildings library store.silence).evaluates [] rfl
    (Parser.runs_iff_evaluates.mp runs)
  have reported : report.buildings = state.buildings := by
    rw [Report.buildings, records, List.count_reverse]
    exact extent.close_buildings ended state
  have silent : store.silence.buildings = 0 := rfl
  have same : store.silence.built.size = store.built.size := rfl
  rw [extent.close_built, reported]
  omega

theorem Parser.Parses.built (h : parser.Parses library store tasks reports starts last)
    (path : List Nat) : last.isBuilt path = true ↔
      store.isBuilt path = true ∨ ∃ start ∈ starts, start.Uses library path := by
  induction h with
  | nil store => simp
  | cons parsed runs _ ih =>
    rw [ih, Store.parse_built parsed runs]
    simp only [List.mem_append, or_and_right, exists_or, or_assoc]

theorem Parser.Parses.buildings (h : parser.Parses library store tasks reports starts last) :
    last.built.size = store.built.size + (reports.map Report.buildings).sum := by
  induction h with
  | nil store => rfl
  | cons parsed _ _ ih =>
    have first := Store.parse_buildings parsed
    rw [ih, first, List.map_cons, List.sum_cons]
    omega

theorem Parser.Parses.known (hl : library.Plain)
    (h : parser.Parses library store tasks reports starts last)
    {made : Nat → Option (Parser ε)} (known : Parser.Known library made parser)
    (numbers : store.Numbers library made) :
    ∃ more, Parser.Extends made more ∧ last.Numbers library more ∧
      ∀ start ∈ starts, Parser.Known library more start.parser := by
  induction h generalizing made with
  | nil store => exact ⟨made, fun _ _ found => found, numbers, by simp⟩
  | @cons store state next last fuel extent input report ended tasks reports starts more parsed
      runs _ ih =>
    have silent : store.silence.Numbers library made := numbers.of_roots rfl
    obtain ⟨during, extend, after, hstarts⟩ := (parsing_grows_known hl).evaluates
      (.more known) silent (Parser.runs_iff_evaluates.mp runs)
    have closed : next.Numbers library during := by
      rw [Store.parse_last parsed runs]
      exact after.of_roots (extent.close_roots ended state)
    obtain ⟨whole, extend', final, hmore⟩ := ih (extend.known known) closed
    refine ⟨whole, fun _ _ found => extend' _ _ (extend _ _ found), final, fun start hm => ?_⟩
    rcases List.mem_append.mp hm with early | late
    · exact extend'.known (hstarts start early)
    · exact hmore start late

/-- In parses with a new parser a path belongs to one definition. -/
theorem Parser.Parses.same_definition (hl : library.Plain) (hp : parser.Plain)
    (h : (store.install parser).1.Parses library (store.install parser).2 tasks reports starts last)
    {start start' : Start ρ ε} (hs : start ∈ starts) (hs' : start' ∈ starts) {path : List Nat}
    (uses : start.Uses library path) (uses' : start'.Uses library path) :
    start.parser = start'.parser := by
  let none : Nat → Option (Parser ε) := fun _ => .none
  let made := Function.update none store.roots (some (store.install parser).1)
  have first : made store.roots = some (store.install parser).1 := Function.update_self ..
  have numbers : (store.install parser).2.Numbers library made := by
    constructor
    · intro number other found
      by_cases own : number = store.roots
      · subst own
        obtain rfl := Option.some.inj (first.symm.trans found)
        exact hp.placed true _
      · have absent : made number = .none := Function.update_of_ne own ..
        rw [absent] at found
        cases found
    · intro number le
      have later : store.roots + 1 ≤ number := le
      have ne : number ≠ store.roots := by omega
      exact Function.update_of_ne ne ..
  have here : Parser.find? library made [store.roots] = some (store.install parser).1 := first
  obtain ⟨more, -, final, known⟩ := h.known hl (.found here) numbers
  obtain ⟨site, asks, rfl⟩ := uses
  obtain ⟨site', asks', same⟩ := uses'
  have found := (known start hs).find? hl final asks
  have found' := (known start' hs').find? hl final asks'
  rw [same] at found'
  exact Option.some.inj (found.symm.trans found')

theorem Store.parseEach_parses {inputs : List ρ}
    (h : store.parseEach library fuel extent parser inputs = some (reports, last)) :
    ∃ starts, parser.Parses library store (inputs.map (extent, ·)) reports starts last := by
  induction inputs generalizing store reports with
  | nil =>
    obtain ⟨rfl, rfl⟩ := Prod.mk.inj (Option.some.inj h)
    exact ⟨[], .nil store⟩
  | cons input inputs ih =>
    obtain ⟨⟨report, next⟩, parsed, h⟩ := Option.bind_eq_some_iff.mp h
    obtain ⟨⟨others, final⟩, rest, h⟩ := Option.bind_eq_some_iff.mp h
    obtain ⟨rfl, rfl⟩ := Prod.mk.inj (Option.some.inj h)
    obtain ⟨more, parses⟩ := ih rest
    obtain ⟨starts, ended, state, runs, -⟩ := Store.parse_runs parsed
    exact ⟨starts ++ more, .cons parsed runs parses⟩

/-- Two copies of a parser take the same turns and report the same, whatever was built before. -/
theorem Store.outcome_parse_copy (library : Library ε) (parser : Parser ε)
    (store other now now' : Store) (fuel : Nat) (extent : Extent) (input : ρ) :
    (now.parse library fuel extent (store.install parser).1 input).map (·.1.outcome) =
      (now'.parse library fuel extent (other.install parser).1 input).map (·.1.outcome) := by
  have alike : Parser.Alike (fun _ => True) (store.install parser).1 (other.install parser).1 :=
    parser.madeOf_anything.alike.place true _ _
  have same : input = input := rfl
  have sides := optionRel_map.mpr (optionRel_mono (fun _ _ related => related.eq)
    (Store.parse_related library.alike_self Reader.corresponds_eq spansAgree_eq alike same fuel
      extent now now'))
  revert sides
  generalize Option.map _ (now.parse library fuel extent _ input) = left
  generalize Option.map _ (now'.parse library fuel extent _ input) = right
  intro sides
  cases sides with
  | none => rfl
  | some same => rw [same]

end SafeDescent
