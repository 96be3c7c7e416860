import SafeDescent.Proofs.Parser.Rounds
import SafeDescent.Proofs.Parser.Termination
import SafeDescent.Proofs.Parser.YieldRules

namespace SafeDescent

open Reader Round

variable {ρ ε : Type} [Reader ρ ε] [Element ε] [DecidableEq ε]

namespace Parser

/-- A parser yields successes in a row, each from where the one before it stopped. -/
inductive Iterates (library : Library ε) (body : Parser ε) : ρ → List (Round ρ) → ρ → Prop
  | nil (input : ρ) : Iterates library body input [] input
  | cons {input next r : ρ} {value : Value} {rounds : List (Round ρ)} :
      body.Yields library input (.success value next) → Iterates library body next rounds r →
        Iterates library body input (⟨input, value, next⟩ :: rounds) r

/-- The outcome of a repetition after some rounds: a success if they are complete, and otherwise
what follows from one more round that does not succeed. -/
def Concludes (library : Library ε) (body : Parser ε) (min : Nat) (limit : Option Nat)
    (rounds : List (Round ρ)) (r : ρ) (outcome : Outcome ρ Value) : Prop :=
  (Complete min limit rounds ∧ outcome = .success (Round.values rounds) r) ∨
    ¬ Complete min limit rounds ∧ ∃ ended, ended.isSuccess = false ∧
      body.Yields library r ended ∧ outcome = ended.afterRounds min rounds r

variable {library : Library ε} {body : Parser ε} {bounds : Bounds} {input r : ρ}
  {rounds more : List (Round ρ)} {store last : Store} {outcome : Outcome ρ Value}

theorem Rounds.iterates {runs : List (List (Start ρ ε))}
    (h : Rounds library body input store runs rounds r last) :
    Iterates library body input rounds r := by
  induction h with
  | nil input store => exact .nil input
  | cons run _ ih => exact .cons run.yields ih

theorem Iterates.exists_rounds (h : Iterates library body input rounds r) (store : Store) :
    ∃ runs last, Rounds library body input store runs rounds r last := by
  induction h generalizing store with
  | nil input => exact ⟨[], store, .nil input store⟩
  | cons yields _ ih =>
    obtain ⟨starts, middle, run⟩ := yields.runs store
    obtain ⟨runs, last, turns⟩ := ih middle
    exact ⟨starts :: runs, last, .cons run turns⟩

theorem iterates_append :
    Iterates library body input (rounds ++ more) r ↔
      ∃ middle, Iterates library body input rounds middle ∧ Iterates library body middle more r := by
  induction rounds generalizing input with
  | nil =>
    constructor
    · intro h
      exact ⟨input, .nil input, h⟩
    · intro h
      obtain ⟨middle, none, h⟩ := h
      cases none
      exact h
  | cons round rounds ih =>
    constructor
    · intro h
      cases h with
      | cons yields h =>
        obtain ⟨middle, first, second⟩ := ih.mp h
        exact ⟨middle, .cons yields first, second⟩
    · intro h
      obtain ⟨middle, first, second⟩ := h
      cases first with
      | cons yields first => exact .cons yields (ih.mpr ⟨middle, first, second⟩)

theorem Iterates.yields_of_mem (h : Iterates library body input rounds r) {round : Round ρ}
    (hm : round ∈ rounds) : body.Yields library round.start (.success round.value round.stopped) := by
  induction h with
  | nil input => simp at hm
  | cons yields _ ih =>
    rcases List.mem_cons.mp hm with rfl | hm
    · exact yields
    · exact ih hm

/-- What a repetition yields follows from the rounds that are due. -/
theorem yields_many_iff :
    (Parser.many bounds body).Yields library input outcome ↔
      ∃ rounds r, Iterates library body input rounds r ∧ Due bounds.min bounds.max [] rounds ∧
        Concludes library body bounds.min bounds.max rounds r outcome := by
  constructor
  · intro h
    obtain ⟨starts, last, runs⟩ := h
    obtain ⟨_, rounds, r, middle, rest, turns, due, -, ends⟩ := runs_many_iff.mp runs
    refine ⟨rounds, r, turns.iterates, due, ?_⟩
    rcases ends with ⟨complete, he, -⟩ | ⟨incomplete, ended, stopped, run, he⟩
    · exact .inl ⟨complete, he⟩
    · exact .inr ⟨incomplete, ended, stopped, run.yields, he⟩
  · intro h
    obtain ⟨rounds, r, iterates, due, concludes⟩ := h
    obtain ⟨runs, middle, turns⟩ := iterates.exists_rounds {}
    rcases concludes with ⟨complete, he⟩ | ⟨incomplete, ended, stopped, yields, he⟩
    · exact ⟨_, middle, runs_many_iff.mpr
        ⟨runs, rounds, r, middle, [], turns, due, rfl, .inl ⟨complete, he, rfl, rfl⟩⟩⟩
    · obtain ⟨starts, last, run⟩ := yields.runs middle
      exact ⟨_, last, runs_many_iff.mpr ⟨runs, rounds, r, middle, starts, turns, due, rfl,
        .inr ⟨incomplete, ended, stopped, run, he⟩⟩⟩

theorem Concludes.success {min : Nat} {limit : Option Nat} {value : Value} {stopped : ρ}
    (bounded : ∀ most, limit = some most → min ≤ most)
    (h : Concludes library body min limit rounds r (.success value stopped)) :
    value = Round.values rounds ∧ stopped = r ∧ min ≤ rounds.length := by
  rcases h with ⟨complete, he⟩ | ⟨-, ended, unsuccessful, -, he⟩
  · obtain ⟨rfl, rfl⟩ := Outcome.success.inj he
    exact ⟨rfl, rfl, complete.le_length bounded⟩
  · exact Outcome.afterRounds_eq_success unsuccessful he.symm

theorem yields_many_success {value : Value}
    (h : (Parser.many bounds body).Yields library input (.success value r)) :
    ∃ rounds, Iterates library body input rounds r ∧ value = Round.values rounds ∧
      bounds.min ≤ rounds.length ∧ ∀ most, bounds.max = some most → rounds.length ≤ most := by
  obtain ⟨rounds, stopped, iterates, due, concludes⟩ := yields_many_iff.mp h
  obtain ⟨rfl, rfl, enough⟩ := concludes.success bounds.min_le
  refine ⟨rounds, iterates, rfl, enough, fun most bound => ?_⟩
  simpa using due.length_le bound (Nat.zero_le most)

theorem yields_many_ne_failure (needless : bounds.min = 0)
    (h : (Parser.many bounds body).Yields library input outcome) (message : String) (stopped : ρ) :
    outcome ≠ .failure message stopped := by
  obtain ⟨rounds, r, -, -, ⟨-, rfl⟩ | ⟨-, ended, -, -, rfl⟩⟩ := yields_many_iff.mp h
  · nofun
  · rw [needless]
    exact ended.afterRounds_ne_failure rounds r message stopped

/-- The parser never succeeds at the offset where it started. -/
def Moves (ρ : Type) [Reader ρ ε] (library : Library ε) (parser : Parser ε) : Prop :=
  ∀ (input r : ρ) (value : Value), parser.Yields library input (.success value r) →
    Reader.offset r ≠ Reader.offset input

theorem Consumes.moves [LawfulReader ρ ε] (h : body.Consumes ρ library) :
    body.Moves ρ library := by
  intro input r value yields
  obtain ⟨starts, last, runs⟩ := yields
  obtain ⟨fuel, run⟩ := Store.run_iff_runs.mpr ⟨starts, runs⟩
  have strict := strict_of_lawful input
  obtain ⟨k, read, holds, rfl⟩ := h _ _ _ _ _ _ _ strict (holdsOnly_length input) run
  exact Nat.ne_of_gt (strict.offset_lt holds read)

theorem Iterates.not_stallAfter (moves : body.Moves ρ library)
    (h : Iterates library body input rounds r) (min : Nat) : ¬ StallAfter min rounds := by
  intro stalls
  obtain ⟨-, round, last, stalled⟩ := stalls
  exact moves _ _ _ (h.yields_of_mem (List.mem_of_getLast? last)) stalled

/-- A repetition gives its parser a place that holds it, wherever the repetition itself stands. -/
theorem yields_repeated_place_iff {min : Nat} {max : Option Nat} {kept : Bool} {path : List Nat}
    (path' : List Nat) :
    ((repeated min max body).place kept path).Yields library input outcome ↔
      (repeated min max (body.place true path')).Yields library input outcome :=
  yields_iff_of_alike (.many (body.madeOf_anything.alike.place ..))

theorem Moves.place {path : List Nat} (moves : (body.place true path).Moves ρ library)
    (path' : List Nat) : (body.place true path').Moves ρ library := by
  intro input r value yields
  exact moves _ _ _ ((yields_place_iff path).mp yields)

end Parser

end SafeDescent
