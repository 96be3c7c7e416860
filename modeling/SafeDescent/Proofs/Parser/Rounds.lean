import SafeDescent.Proofs.Parser.Runs
import SafeDescent.Proofs.Parser.StalledRounds

namespace SafeDescent

variable {ρ ε : Type}

open Round

namespace Parser

variable [Reader ρ ε] [Element ε] [DecidableEq ε]

/-- A parser succeeds some times in a row, each time from where it stopped before. -/
inductive Rounds (library : Library ε) (body : Parser ε) :
    ρ → Store → List (List (Start ρ ε)) → List (Round ρ) → ρ → Store → Prop
  | nil (input : ρ) (store : Store) : Rounds library body input store [] [] input store
  | cons {input next r : ρ} {value : Value} {store middle last : Store}
      {starts : List (Start ρ ε)} {runs : List (List (Start ρ ε))} {rounds : List (Round ρ)} :
      body.Runs library input store starts (.success value next) middle →
      Rounds library body next middle runs rounds r last →
        Rounds library body input store (starts :: runs) (⟨input, value, next⟩ :: rounds) r last

/-- How a repetition comes to its end after some rounds. If they are complete it succeeds at once.
Otherwise it runs its parser once more; that does not succeed, and decides about the outcome. -/
def EndsRounds (library : Library ε) (body : Parser ε) (min : Nat) (limit : Option Nat)
    (rounds : List (Round ρ)) (r : ρ) (middle : Store) (starts : List (Start ρ ε))
    (outcome : Outcome ρ Value) (last : Store) : Prop :=
  (Complete min limit rounds ∧ outcome = .success (Round.values rounds) r ∧ last = middle ∧
      starts = []) ∨
    ¬ Complete min limit rounds ∧ ∃ ended, ended.isSuccess = false ∧
      body.Runs library r middle starts ended last ∧ outcome = ended.afterRounds min rounds r

variable {library : Library ε} {body : Parser ε} {bounds : Bounds} {values : Array Value}
  {before rounds : List (Round ρ)} {input r : ρ} {store middle last : Store}
  {starts : List (Start ρ ε)} {outcome : Outcome ρ Value}

theorem evaluates_round_iff :
    (parsing library).Evaluates (Run.round bounds body values input) store starts outcome last ↔
      (bounds.max = some values.size ∧ outcome = .success (.list values.toList) input ∧
          last = store ∧ starts = []) ∨
        bounds.max ≠ some values.size ∧ ∃ tried rest head middle, starts = tried ++ rest ∧
          body.Runs library input store tried head middle ∧
          (parsing library).Evaluates (afterRound bounds body values input head) middle rest outcome
            last := by
  unfold Run.round
  split
  next reached =>
    rw [Engine.evaluates_done_iff]
    simp [reached, and_comm, and_assoc, and_left_comm]
  next open' =>
    simp only [runs_iff_evaluates, open', false_and, false_or, ne_eq, not_false_eq_true, true_and]
    exact Engine.evaluates_flatMap_iff

/-- What the loop does from some rounds on. -/
theorem rounds_of_evaluates (hv : values.toList = before.map Round.value)
    (moves : ¬ StallAfter bounds.min before)
    (h : (parsing library).Evaluates (Run.round bounds body values input) store starts outcome last) :
    ∃ runs rounds r middle rest, Rounds library body input store runs rounds r middle ∧
      Due bounds.min bounds.max before rounds ∧ starts = runs.flatten ++ rest ∧
      EndsRounds library body bounds.min bounds.max (before ++ rounds) r middle rest outcome last := by
  -- A round starts its parser at least, so what is left to start gets less from round to round.
  induction hn : starts.length using Nat.strongRecOn generalizing values before input store starts with
  | ind n ih =>
  have size := size_of_toList hv
  rcases evaluates_round_iff.mp h with ⟨reached, rfl, rfl, rfl⟩ | ⟨open', tried, rest, head, middle,
    rfl, run, goesOn⟩
  · rw [size] at reached
    refine ⟨[], [], input, last, [], .nil _ _, due_nil, rfl, ?_⟩
    rw [List.append_nil]
    exact .inl ⟨.inl reached, by rw [hv, Round.values], rfl, rfl⟩
  · rw [size] at open'
    have incomplete : ¬ Complete bounds.min bounds.max before := fun complete =>
      complete.elim open' moves
    by_cases stopped : head.isSuccess = false
    · rw [afterRound_of_isSuccess_false stopped hv] at goesOn
      obtain ⟨rfl, rfl, rfl⟩ := Engine.evaluates_done_iff.mp goesOn
      refine ⟨[], [], input, store, tried, .nil _ _, due_nil, by simp, ?_⟩
      rw [List.append_nil]
      exact .inr ⟨incomplete, head, stopped, run, rfl⟩
    · obtain ⟨value, next, rfl⟩ : ∃ value next, head = .success value next := by
        cases head with
        | success value next => exact ⟨value, next, rfl⟩
        | failure message next => exact absurd rfl stopped
        | error message next => exact absurd rfl stopped
      let round : Round ρ := ⟨input, value, next⟩
      have due {rounds : List (Round ρ)} (later : Due bounds.min bounds.max (before ++ [round]) rounds) :
          Due bounds.min bounds.max before (round :: rounds) := due_cons.mpr ⟨incomplete, later⟩
      by_cases stalls : StallAfter bounds.min (before ++ [round])
      · rw [afterRound_of_stallAfter hv stalls] at goesOn
        obtain ⟨rfl, rfl, rfl⟩ := Engine.evaluates_done_iff.mp goesOn
        exact ⟨[tried], [round], next, last, [], .cons run (.nil _ _), due due_nil, by simp,
          .inl ⟨.inr stalls, rfl, rfl, rfl⟩⟩
      · rw [afterRound_of_not_stallAfter hv stalls] at goesOn
        have pushed : (values.push value).toList = (before ++ [round]).map Round.value := by
          simp [round, hv]
        have shorter : rest.length < n := by
          obtain ⟨more, rfl⟩ := run.starts_eq
          simp at hn
          omega
        obtain ⟨runs, rounds, r, middle', rest', turns, later, rfl, ends⟩ :=
          ih _ shorter pushed stalls goesOn rfl
        refine ⟨tried :: runs, round :: rounds, r, middle', rest', .cons run turns, due later,
          by simp, ?_⟩
        simpa using ends

/-- Rounds that are due, and an end after them, make up a loop. -/
theorem evaluates_of_rounds {runs : List (List (Start ρ ε))}
    (hv : values.toList = before.map Round.value) (moves : ¬ StallAfter bounds.min before)
    (turns : Rounds library body input store runs rounds r middle)
    (due : Due bounds.min bounds.max before rounds)
    (ends : EndsRounds library body bounds.min bounds.max (before ++ rounds) r middle starts outcome
      last) :
    (parsing library).Evaluates (Run.round bounds body values input) store (runs.flatten ++ starts)
      outcome last := by
  induction turns generalizing values before with
  | nil input store =>
    rw [List.append_nil] at ends
    rw [evaluates_round_iff, size_of_toList hv]
    rcases ends with ⟨complete, rfl, rfl, rfl⟩ | ⟨incomplete, ended, stopped, run, rfl⟩
    · exact .inl ⟨complete.resolve_right moves, by rw [hv, Round.values], rfl, rfl⟩
    · refine .inr ⟨fun reached => incomplete (.inl reached), starts, [], ended, last, by simp, run, ?_⟩
      rw [afterRound_of_isSuccess_false stopped hv]
      exact .done _ _
  | @cons input next r value store middle last' tried runs rounds run turns ih =>
    let round : Round ρ := ⟨input, value, next⟩
    obtain ⟨incomplete, later⟩ := due_cons.mp due
    have ends' : EndsRounds library body bounds.min bounds.max (before ++ [round] ++ rounds) r last'
        starts outcome last := by simpa using ends
    rw [evaluates_round_iff, size_of_toList hv]
    refine .inr ⟨fun reached => incomplete (.inl reached), tried, runs.flatten ++ starts, _, middle,
      by simp, run, ?_⟩
    by_cases stalls : StallAfter bounds.min (before ++ [round])
    · rw [afterRound_of_stallAfter hv stalls]
      have complete : Complete bounds.min bounds.max (before ++ [round]) := .inr stalls
      -- The round is the last one, since none is due after it.
      cases turns with
      | nil =>
        rw [List.append_nil] at ends'
        rcases ends' with ⟨-, rfl, rfl, rfl⟩ | ⟨incomplete, -⟩
        · exact .done _ _
        · exact absurd complete incomplete
      | cons => exact absurd complete (due_cons.mp later).1
    · rw [afterRound_of_not_stallAfter hv stalls]
      have pushed : (values.push value).toList = (before ++ [round]).map Round.value := by
        simp [round, hv]
      exact ih pushed stalls later ends'

/-- A repetition consists of rounds that are due, and comes to its end after them. -/
theorem runs_many_iff :
    (Parser.many bounds body).Runs library input store starts outcome last ↔
      ∃ runs rounds r middle rest, Rounds library body input store runs rounds r middle ∧
        Due bounds.min bounds.max [] rounds ∧
        starts = ⟨.many bounds body, input⟩ :: (runs.flatten ++ rest) ∧
        EndsRounds library body bounds.min bounds.max rounds r middle rest outcome last := by
  have moves : ¬ StallAfter bounds.min ([] : List (Round ρ)) := by simp [StallAfter]
  rw [runs_iff_evaluates, Engine.evaluates_more_iff]
  change (∃ rest, starts = _ :: rest ∧ (parsing library).Evaluates
    (Run.round bounds body #[] input) store rest outcome last) ↔ _
  constructor
  · intro h
    obtain ⟨_, rfl, h⟩ := h
    obtain ⟨runs, rounds, r, middle, rest, turns, due, rfl, ends⟩ := rounds_of_evaluates rfl moves h
    exact ⟨runs, rounds, r, middle, rest, turns, due, rfl, ends⟩
  · intro h
    obtain ⟨runs, rounds, r, middle, rest, turns, due, rfl, ends⟩ := h
    exact ⟨_, rfl, evaluates_of_rounds rfl moves turns due ends⟩

theorem EndsRounds.success_length {min : Nat} {limit : Option Nat} {value : Value} {stopped : ρ}
    (ends : EndsRounds library body min limit rounds r middle starts (.success value stopped) last)
    (bounded : ∀ most, limit = some most → min ≤ most) :
    value = Round.values rounds ∧ min ≤ rounds.length := by
  rcases ends with ⟨complete, he, -⟩ | ⟨-, ended, unsuccessful, -, he⟩
  · obtain ⟨rfl, -⟩ := Outcome.success.inj he
    exact ⟨rfl, complete.le_length bounded⟩
  · obtain ⟨rfl, -, enough⟩ := Outcome.afterRounds_eq_success unsuccessful he.symm
    exact ⟨rfl, enough⟩

theorem EndsRounds.ne_failure {limit : Option Nat}
    (ends : EndsRounds library body 0 limit rounds r middle starts outcome last) (message : String)
    (stopped : ρ) : outcome ≠ .failure message stopped := by
  rcases ends with ⟨-, rfl, -⟩ | ⟨-, ended, -, -, rfl⟩
  · nofun
  · exact ended.afterRounds_ne_failure rounds r message stopped

end Parser

end SafeDescent
