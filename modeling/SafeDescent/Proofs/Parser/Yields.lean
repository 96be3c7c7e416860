import SafeDescent.Proofs.Parser.Correspondence
import SafeDescent.Proofs.Parser.Equivalence

namespace SafeDescent

variable {ρ ε : Type} [Reader ρ ε] [Element ε] [DecidableEq ε]

namespace Parser

/-- A run of the parser ends with the outcome. The outcome does not depend on what was built before,
so the run begins with nothing built. -/
def Yields (library : Library ε) (parser : Parser ε) (input : ρ) (outcome : Outcome ρ Value) :
    Prop :=
  ∃ starts last, parser.Runs library input {} starts outcome last

variable {library : Library ε} {parser parser' first second body : Parser ε} {input : ρ}
  {store last : Store} {starts : List (Start ρ ε)} {outcome : Outcome ρ Value}

/-- Parsers that are the same but for their paths run to the same outcome, whatever was built
before. -/
theorem Runs.alike (alike : Alike (fun _ => True) parser parser')
    (h : parser.Runs library input store starts outcome last) (store' : Store) :
    ∃ starts' last', parser'.Runs library input store' starts' outcome last' := by
  obtain ⟨fuel, ran⟩ := Store.run_iff_runs.mpr ⟨starts, h⟩
  have same : input = input := rfl
  have sides := Store.run_related library.alike_self Reader.corresponds_eq spansAgree_eq alike
    same fuel store store'
  rw [ran] at sides
  generalize ran' : store'.run library fuel parser' input = ended at sides
  cases sides with
  | @some _ ended related =>
    obtain ⟨outcome', last'⟩ := ended
    obtain rfl : outcome = outcome' := related.eq
    obtain ⟨starts', runs⟩ := Store.run_iff_runs.mp ⟨fuel, ran'⟩
    exact ⟨starts', last', runs⟩

theorem Runs.yields (h : parser.Runs library input store starts outcome last) :
    parser.Yields library input outcome :=
  h.alike parser.madeOf_anything.alike {}

theorem Yields.runs (h : parser.Yields library input outcome) (store : Store) :
    ∃ starts last, parser.Runs library input store starts outcome last := by
  obtain ⟨starts, last, runs⟩ := h
  exact runs.alike parser.madeOf_anything.alike store

theorem Yields.of_run (fuel : Nat)
    (h : ∃ last, ({} : Store).run library fuel parser input = some (outcome, last)) :
    parser.Yields library input outcome := by
  obtain ⟨last, ran⟩ := h
  obtain ⟨starts, runs⟩ := Store.run_iff_runs.mp ⟨fuel, ran⟩
  exact ⟨starts, last, runs⟩

theorem Yields.unique {outcome' : Outcome ρ Value} (h : parser.Yields library input outcome)
    (h' : parser.Yields library input outcome') : outcome = outcome' := by
  obtain ⟨starts, last, runs⟩ := h
  obtain ⟨starts', last', runs'⟩ := h'
  obtain ⟨-, rfl, -⟩ := runs.unique.mp runs'
  rfl

theorem Yields.alike (alike : Alike (fun _ => True) parser parser')
    (h : parser.Yields library input outcome) : parser'.Yields library input outcome := by
  obtain ⟨starts, last, runs⟩ := h
  exact runs.alike alike {}

theorem yields_iff_of_alike (alike : Alike (fun _ => True) parser parser') :
    parser.Yields library input outcome ↔ parser'.Yields library input outcome :=
  ⟨.alike alike, .alike alike.symm⟩

/-- The places of its definitions have no influence on what a parser yields. -/
theorem yields_place_iff {kept : Bool} {path : List Nat} (path' : List Nat) :
    (parser.place kept path).Yields library input outcome ↔
      (parser.place kept path').Yields library input outcome :=
  yields_iff_of_alike (parser.madeOf_anything.alike.place ..)

end Parser

theorem Store.answers_iff_yields {store : Store} {library : Library ε} {extent : Extent}
    {parser : Parser ε} {input : ρ} {outcome : Outcome ρ Value} :
    store.Answers library extent parser input outcome ↔
      ∃ ended, parser.Yields library input ended ∧ extent.finish ended = outcome := by
  rw [Store.answers_iff_runs]
  constructor
  · intro h
    obtain ⟨starts, ended, last, runs, finish⟩ := h
    exact ⟨ended, runs.yields, finish⟩
  · intro h
    obtain ⟨ended, yields, finish⟩ := h
    obtain ⟨starts, last, runs⟩ := yields.runs store.silence
    exact ⟨starts, ended, last, runs, finish⟩

theorem Store.answers_part_iff_yields {store : Store} {library : Library ε} {parser : Parser ε}
    {input : ρ} {outcome : Outcome ρ Value} :
    store.Answers library .part parser input outcome ↔ parser.Yields library input outcome := by
  rw [Store.answers_iff_yields]
  constructor
  · rintro ⟨ended, yields, rfl⟩
    exact yields
  · intro yields
    exact ⟨outcome, yields, rfl⟩

/-- A parse that has to read the whole input succeeds where the parser does and the input ends. -/
theorem Store.answers_success_iff {store : Store} {library : Library ε} {extent : Extent}
    {parser : Parser ε} {input r : ρ} {value : Value} :
    store.Answers library extent parser input (.success value r) ↔
      parser.Yields library input (.success value r) ∧ (extent = .whole → Reader.atEnd r = true) := by
  rw [Store.answers_iff_yields]
  constructor
  · rintro ⟨ended, yields, finish⟩
    cases extent with
    | part =>
      cases finish
      exact ⟨yields, by simp⟩
    | whole =>
      cases ended with
      | success v r' =>
        simp only [Extent.finish, Outcome.requireEnd] at finish
        split at finish
        next atEnd =>
          cases finish
          exact ⟨yields, fun _ => atEnd⟩
        next => cases finish
      | failure message r' => cases finish
      | error message r' => cases finish
  · rintro ⟨yields, atEnd⟩
    refine ⟨_, yields, ?_⟩
    cases extent with
    | part => rfl
    | whole => simp [Extent.finish, Outcome.requireEnd, atEnd rfl]

end SafeDescent
