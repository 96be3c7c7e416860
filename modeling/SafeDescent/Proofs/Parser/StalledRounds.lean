import SafeDescent.Proofs.Parser.Outcome

namespace SafeDescent

variable {ρ ε : Type}

/-- A round of a repetition that succeeded. -/
structure Round (ρ : Type) where
  start : ρ
  value : Value
  stopped : ρ

namespace Round

/-- The values of some rounds, in order. -/
def values (rounds : List (Round ρ)) : Value := .list (rounds.map Round.value)

variable [Reader ρ ε]

/-- The round did not move on. -/
def Stalls (round : Round ρ) : Prop := Reader.offset round.stopped = Reader.offset round.start

/-- There are enough rounds, and the last of them did not move on. -/
def StallAfter (min : Nat) (rounds : List (Round ρ)) : Prop :=
  min ≤ rounds.length ∧ ∃ round ∈ rounds.getLast?, round.Stalls

/-- No round is to follow: there are as many as there may be, or the last of them stalled when there
were enough. -/
def Complete (min : Nat) (limit : Option Nat) (rounds : List (Round ρ)) : Prop :=
  limit = some rounds.length ∨ StallAfter min rounds

/-- Each of the rounds was due: those before it were not complete, whatever there was before all of
them. -/
def Due (min : Nat) (limit : Option Nat) (before rounds : List (Round ρ)) : Prop :=
  ∀ earlier round later, rounds = earlier ++ round :: later →
    ¬ Complete min limit (before ++ earlier)

end Round

/-- How a repetition ends after some rounds when one more was due that did not succeed. -/
def Outcome.afterRounds (min : Nat) (rounds : List (Round ρ)) (r : ρ) :
    Outcome ρ Value → Outcome ρ Value
  | .failure message stopped =>
    if min ≤ rounds.length then .success (Round.values rounds) r else .failure message stopped
  | outcome => outcome

open Round

section

variable [Reader ρ ε] {min : Nat} {limit : Option Nat} {before rounds : List (Round ρ)}
  {round : Round ρ}

theorem Round.stallAfter_snoc :
    StallAfter min (rounds ++ [round]) ↔ min ≤ rounds.length + 1 ∧ round.Stalls := by
  simp [StallAfter]

theorem Round.Complete.le_length (complete : Complete min limit rounds)
    (bounded : ∀ most, limit = some most → min ≤ most) : min ≤ rounds.length := by
  rcases complete with reached | stalls
  · exact bounded _ reached
  · exact stalls.1

theorem Round.due_nil : Due min limit before [] := by
  intro earlier round later h
  simp at h

theorem Round.due_cons :
    Due min limit before (round :: rounds) ↔
      ¬ Complete min limit before ∧ Due min limit (before ++ [round]) rounds := by
  constructor
  · intro h
    refine ⟨by simpa using h [] round rounds rfl, fun earlier other later he => ?_⟩
    subst he
    simpa using h (round :: earlier) other later rfl
  · intro h earlier other rest he
    obtain ⟨now, later⟩ := h
    cases earlier with
    | nil => simpa using now
    | cons first earlier =>
      obtain ⟨rfl, tail⟩ := List.cons.inj he
      simpa using later earlier other rest tail

theorem Round.Due.length_le (h : Due min limit before rounds) {most : Nat}
    (bound : limit = some most) (le : before.length ≤ most) :
    before.length + rounds.length ≤ most := by
  induction rounds generalizing before with
  | nil => simpa using le
  | cons round rounds ih =>
    obtain ⟨incomplete, later⟩ := due_cons.mp h
    have room : before.length ≠ most := fun full => incomplete (.inl (by rw [bound, full]))
    have rest := ih later (by simp; omega)
    simp only [List.length_append, List.length_cons, List.length_nil] at rest ⊢
    omega

end

theorem Outcome.afterRounds_eq_success {min : Nat} {rounds : List (Round ρ)} {r stopped : ρ}
    {ended : Outcome ρ Value} {value : Value} (unsuccessful : ended.isSuccess = false)
    (h : ended.afterRounds min rounds r = .success value stopped) :
    value = Round.values rounds ∧ stopped = r ∧ min ≤ rounds.length := by
  cases ended with
  | success value' next => cases unsuccessful
  | failure message next =>
    simp only [afterRounds] at h
    split at h
    next enough =>
      obtain ⟨rfl, rfl⟩ := Outcome.success.inj h
      exact ⟨rfl, rfl, enough⟩
    next => cases h
  | error message next => cases h

theorem Outcome.afterRounds_ne_failure (ended : Outcome ρ Value) (rounds : List (Round ρ)) (r : ρ)
    (message : String) (stopped : ρ) : ended.afterRounds 0 rounds r ≠ .failure message stopped := by
  cases ended with
  | success value next => nofun
  | failure other next => simp [afterRounds]
  | error other next => nofun

/-- What a function does to the values of some rounds, it does to a repetition that ends after
them. -/
theorem Outcome.map_afterRounds {min least : Nat} {rounds more : List (Round ρ)} {r : ρ}
    {ended : Outcome ρ Value} {f : Value → Value} (hf : f (Round.values rounds) = Round.values more)
    (enough : min ≤ rounds.length ↔ least ≤ more.length) (stopped : ended.isSuccess = false) :
    (ended.afterRounds min rounds r).map f = ended.afterRounds least more r := by
  cases ended with
  | success value next => cases stopped
  | failure message next =>
    by_cases he : min ≤ rounds.length
    · simp [afterRounds, he, enough.mp he, Outcome.map, hf]
    · simp [afterRounds, he, mt enough.mpr he, Outcome.map]
  | error message next => rfl

section

variable [Reader ρ ε] {bounds : Bounds} {body : Parser ε} {values : Array Value}
  {before : List (Round ρ)} {input : ρ}

theorem Round.size_of_toList (hv : values.toList = before.map Round.value) : values.size = before.length := by
  rw [← values.length_toList, hv, List.length_map]

theorem afterRound_of_isSuccess_false {ended : Outcome ρ Value} (stopped : ended.isSuccess = false)
    (hv : values.toList = before.map Round.value) :
    afterRound bounds body values input ended = .done (ended.afterRounds bounds.min before input) := by
  cases ended with
  | success value next => cases stopped
  | failure message next =>
    simp only [afterRound, Outcome.afterRounds, size_of_toList hv, hv, Round.values]
    split
    · rfl
    · rfl
  | error message next => rfl

theorem afterRound_of_stallAfter {value : Value} {next : ρ}
    (hv : values.toList = before.map Round.value)
    (stalls : StallAfter bounds.min (before ++ [⟨input, value, next⟩])) :
    afterRound bounds body values input (.success value next) =
      .done (.success (Round.values (before ++ [⟨input, value, next⟩])) next) := by
  obtain ⟨enough, stalled⟩ := stallAfter_snoc.mp stalls
  have size := size_of_toList hv
  have ends : Reader.offset next = Reader.offset input ∧ bounds.min ≤ (values.push value).size := by
    rw [Array.size_push, size]
    exact ⟨stalled, enough⟩
  simp only [afterRound]
  rw [if_pos ends]
  simp [Round.values, hv]

theorem afterRound_of_not_stallAfter {value : Value} {next : ρ}
    (hv : values.toList = before.map Round.value)
    (moves : ¬ StallAfter bounds.min (before ++ [⟨input, value, next⟩])) :
    afterRound bounds body values input (.success value next) =
      Run.round bounds body (values.push value) next := by
  have size := size_of_toList hv
  have goesOn : ¬ (Reader.offset next = Reader.offset input ∧
      bounds.min ≤ (values.push value).size) := by
    intro ends
    rw [Array.size_push, size] at ends
    exact moves (stallAfter_snoc.mpr ⟨ends.2, ends.1⟩)
  simp only [afterRound]
  rw [if_neg goesOn]

end

end SafeDescent
