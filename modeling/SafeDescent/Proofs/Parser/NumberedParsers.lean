import Mathlib.Logic.Function.Basic
import SafeDescent.Proofs.Parser.PlacedPaths
import SafeDescent.Proofs.Parser.Steps

namespace SafeDescent

variable {ρ ε : Type}

open SafeDescent.Parser (Known Placed Extends)

/-- A parser will be placed wherever it gets its place. -/
def Parser.Placeable (library : Library ε) (made : Nat → Option (Parser ε)) (parser : Parser ε) :
    Prop := ∀ path, Placed library made path (parser.place false path)

/-- The parsers that have got their numbers so far. -/
structure Store.Numbers (library : Library ε) (made : Nat → Option (Parser ε)) (store : Store) :
    Prop where
  placed (number : Nat) (parser : Parser ε) : made number = some parser →
    Placed library made [number] parser
  fresh (number : Nat) : store.roots ≤ number → made number = none

variable {library : Library ε} {made more : Nat → Option (Parser ε)} {store last : Store}

theorem Store.Numbers.of_roots (h : store.Numbers library made) (same : last.roots = store.roots) :
    last.Numbers library made :=
  ⟨h.placed, fun number le => h.fresh number (same ▸ le)⟩

theorem Store.Numbers.extend (h : store.Numbers library made) {parser : Parser ε}
    (hp : parser.Placeable library made) :
    ∃ more, Extends made more ∧ store.fresh.2.Numbers library more ∧
      more store.roots = some (parser.place false [store.roots]) := by
  let more := Function.update made store.roots (some (parser.place false [store.roots]))
  have extend : Extends made more := by
    intro number other found
    have ne : number ≠ store.roots := by
      rintro rfl
      rw [h.fresh store.roots (Nat.le_refl _)] at found
      cases found
    rw [← found]
    exact Function.update_of_ne ne ..
  refine ⟨more, extend, ⟨?_, ?_⟩, Function.update_self ..⟩
  · intro number other found
    by_cases new : number = store.roots
    · subst new
      obtain rfl : parser.place false [store.roots] = other := by
        simpa [more] using found
      exact extend.placed (hp _)
    · have earlier : made number = some other := by
        rw [← found]
        exact (Function.update_of_ne new ..).symm
      exact extend.placed (h.placed number other earlier)
  · intro number le
    have later : store.roots + 1 ≤ number := le
    have ne : number ≠ store.roots := by omega
    have none := h.fresh number (by omega)
    rw [← none]
    exact Function.update_of_ne ne ..

/-- A known start asks for the definition that stands at the end of its path. -/
theorem Parser.Known.find? (hl : library.Plain) (numbers : store.Numbers library made)
    {start : Start ρ ε} {site : Site} (h : Known library made start.parser)
    (asks : start.site? library = some site) :
    Parser.find? library made site.path = some start.parser := by
  obtain ⟨parser, input⟩ := start
  change Known library made parser at h
  cases h with
  | @found path _ here =>
    have placed := placed_of_find? hl numbers.placed here
    cases placed with
    | deferred _ =>
      obtain rfl := Option.some.inj asks
      exact here
    | fixpoint _ =>
      obtain rfl := Option.some.inj asks
      exact here
    | @copied own name scope _ _ =>
      cases defined : library name with
      | none => simp [Start.site?, defined] at asks
      | some body =>
        obtain rfl : own = site := by simpa [Start.site?, defined] using asks
        exact here
    | _ => cases asks
  | many _ => cases asks
  | sequence _ _ => cases asks

theorem Parser.Known.opens (hl : library.Plain) (numbers : store.Numbers library made)
    {parser : Parser ε} (h : Known library made parser) :
    parser.Opens library (Known library made) (Known library made)
      (Parser.Placeable library made) := by
  have placed {path : List Nat} {other : Parser ε}
      (found : Parser.find? library made path = some other) :
      Placed library made path other := placed_of_find? hl numbers.placed found
  cases parser with
  | sequence combine first second => exact ⟨h.child 0 rfl, h.child 1 rfl⟩
  | choice first second => exact ⟨h.child 0 rfl, h.child 1 rfl⟩
  | chain join bounds operand separator => exact ⟨h.child 0 rfl, h.child 1 rfl⟩
  | many | adjust | tap | deferred | fixpoint => exact h.child 0 rfl
  | flatMap body next =>
    have hb : Known library made body := h.child 0 rfl
    cases h with
    | found here =>
      cases placed here with
      | flatMap _ hn => exact ⟨hb, hn⟩
  | select body index branches => exact ⟨h.child 0 rfl, fun i => h.child (i + 1) rfl⟩
  | copied site name scope =>
    intro body defined
    exact h.child 0 (by rw [Parser.child?, defined]; rfl)
  | handle site name body =>
    cases h with
    | found here =>
      cases placed here with
      | handle found => exact .found found
  | shared body =>
    cases h with
    | found here => cases placed here
  | primitive | reference => trivial

variable [Reader ρ ε] [Element ε] [DecidableEq ε]

/-- Whatever a parse starts has its place. -/
theorem parsing_grows_known (hl : library.Plain) :
    (parsing library : Engine (Start ρ ε) (Frame ρ ε) (Outcome ρ Value) Store).Grows Extends
      (fun made start => Known library made start.parser)
      (fun made => Frame.All (Known library made) (Parser.Placeable library made))
      (Store.Numbers library) where
  refl made number parser found := found
  trans extend extend' number parser found := extend' _ _ (extend _ _ found)
  thunk extend known := extend.known known
  next extend known :=
    known.imp (fun _ => extend.known) fun _ placeable path => extend.placed (placeable path)
  call {made start store} known numbers :=
    ⟨made, fun _ _ found => found, numbers.of_roots (start.call_affects library store).roots,
      Start.call_all (known.opens hl numbers) (fun _ known => known) store⟩
  resume {made frame store} outcome known numbers := by
    have rest (bounds : Bounds) (operand separator : Parser ε)
        (ho : Known library made operand) (hs : Known library made separator) :
        Known library made (.many bounds (.sequence Value.pair separator operand)) :=
      .many (.sequence hs ho)
    have same (roots : (frame.resume outcome store).2.roots = store.roots)
        (other : ∀ next, frame ≠ .choosing next) :
        ∃ more, Extends made more ∧ (frame.resume outcome store).2.Numbers library more ∧
          (frame.resume outcome store).1.All (fun start => Known library more start.parser)
            (Frame.All (Known library more) (Parser.Placeable library more)) fun _ => True :=
      ⟨made, fun _ _ found => found, numbers.of_roots roots, Frame.resume_all known
        (fun _ known => known) rest (fun next _ choosing => (other next choosing).elim) outcome⟩
    cases frame with
    | choosing next =>
      cases outcome with
      | success value r =>
        obtain ⟨more, extend, later, found⟩ := numbers.extend (known value)
        have here : Parser.find? library more [store.roots] =
            some ((next value).place false [store.roots]) := found
        have fresh : Known library more ((next value).place false [store.roots]) := .found here
        exact ⟨more, extend, later, .more fresh⟩
      | failure message r => exact ⟨made, fun _ _ found => found, numbers, .done trivial⟩
      | error message r => exact ⟨made, fun _ _ found => found, numbers, .done trivial⟩
    | leaving id =>
      refine same ?_ fun _ choosing => by cases choosing
      simp only [Frame.resume]
      split <;> rfl
    | _ => exact same rfl fun _ choosing => by cases choosing

end SafeDescent
