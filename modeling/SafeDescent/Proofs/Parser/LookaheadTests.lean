import SafeDescent.Parser.Combinators
import SafeDescent.Proofs.Parser.YieldRules

namespace SafeDescent

variable {ρ ε : Type} [Reader ρ ε]

@[simp] theorem Outcome.isSuccess_furthest {α : Type} (outcome : Outcome ρ α) (message : String)
    (stopped : ρ) : (outcome.furthest message stopped).isSuccess = outcome.isSuccess := by
  cases outcome with
  | success value r => rfl
  | failure other r =>
    rw [furthest_failure]
    split <;> rfl
  | error other r =>
    rw [furthest_error]
    split <;> rfl

variable [Element ε] [DecidableEq ε]

/-- A parse ends with a success. -/
def Store.Accepts (store : Store) (library : Library ε) (extent : Extent) (parser : Parser ε)
    (input : ρ) : Prop :=
  ∃ value r, store.Answers library extent parser input (.success value r)

namespace Parser

/-- The parser succeeds at the position. -/
def Succeeds (library : Library ε) (parser : Parser ε) (input : ρ) : Prop :=
  ∃ value r, parser.Yields library input (.success value r)

/-- The parser ends at the position, and without a success. -/
def Stops (library : Library ε) (parser : Parser ε) (input : ρ) : Prop :=
  ∃ ended, parser.Yields library input ended ∧ ended.isSuccess = false

variable {library : Library ε} {first second body : Parser ε} {input r : ρ}
  {outcome : Outcome ρ Value} {value : Value} {kept : Bool} {path : List Nat}

theorem succeeds_place_iff (path' : List Nat) :
    (body.place kept path).Succeeds library input ↔ (body.place kept path').Succeeds library input :=
  exists_congr fun _ => exists_congr fun _ => yields_place_iff path'

theorem stops_place_iff (path' : List Nat) :
    (body.place kept path).Stops library input ↔ (body.place kept path').Stops library input :=
  exists_congr fun _ => and_congr_left' (yields_place_iff path')

/-- A lookahead ends where it starts. -/
theorem Yields.remaining_guard (h : body.guard.Yields library input outcome) :
    outcome.remaining = input := by
  obtain ⟨ended, -, rfl⟩ := yields_adjust_iff.mp h
  cases ended <;> rfl

theorem Yields.remaining_negate (h : body.negate.Yields library input outcome) :
    outcome.remaining = input := by
  obtain ⟨ended, -, rfl⟩ := yields_adjust_iff.mp h
  cases ended <;> rfl

theorem yields_guard_success_iff :
    body.guard.Yields library input (.success value r) ↔
      body.Succeeds library input ∧ value = .unit ∧ r = input := by
  rw [guard, yields_adjust_iff]
  constructor
  · rintro ⟨ended, yields, adjusted⟩
    cases ended with
    | success v there =>
      obtain ⟨rfl, rfl⟩ := Outcome.success.inj adjusted
      exact ⟨⟨v, there, yields⟩, rfl, rfl⟩
    | failure message there => cases adjusted
    | error message there => cases adjusted
  · rintro ⟨⟨v, there, yields⟩, rfl, rfl⟩
    exact ⟨_, yields, rfl⟩

/-- A negative lookahead tells whether the parser succeeds, and nothing else about it. -/
theorem yields_negate_iff :
    body.negate.Yields library input outcome ↔
      body.Stops library input ∧ outcome = .success .unit input ∨
        body.Succeeds library input ∧
          outcome = .failure "negative lookahead failed: unexpected match" input := by
  rw [negate, yields_adjust_iff]
  constructor
  · rintro ⟨ended, yields, rfl⟩
    cases ended with
    | success v there => exact .inr ⟨⟨v, there, yields⟩, rfl⟩
    | failure message there => exact .inl ⟨⟨_, yields, rfl⟩, rfl⟩
    | error message there => exact .inl ⟨⟨_, yields, rfl⟩, rfl⟩
  · rintro (⟨⟨ended, yields, stopped⟩, rfl⟩ | ⟨⟨v, there, yields⟩, rfl⟩)
    · refine ⟨ended, yields, ?_⟩
      cases ended with
      | success v there => cases stopped
      | failure message there => rfl
      | error message there => rfl
    · exact ⟨_, yields, rfl⟩

theorem yields_negate_success_iff :
    body.negate.Yields library input (.success value r) ↔
      body.Stops library input ∧ value = .unit ∧ r = input := by
  rw [yields_negate_iff]
  simp

theorem succeeds_negate_iff : body.negate.Succeeds library input ↔ body.Stops library input := by
  constructor
  · rintro ⟨v, there, yields⟩
    exact (yields_negate_success_iff.mp yields).1
  · intro stops
    exact ⟨_, _, yields_negate_success_iff.mpr ⟨stops, rfl, rfl⟩⟩

theorem stops_negate_iff : body.negate.Stops library input ↔ body.Succeeds library input := by
  constructor
  · rintro ⟨ended, yields, stopped⟩
    rcases yields_negate_iff.mp yields with ⟨-, rfl⟩ | ⟨succeeds, -⟩
    · cases stopped
    · exact succeeds
  · intro succeeds
    exact ⟨_, yields_negate_iff.mpr (.inr ⟨succeeds, rfl⟩), rfl⟩

theorem yields_negate_negate_negate_iff :
    body.negate.negate.negate.Yields library input outcome ↔
      body.negate.Yields library input outcome := by
  rw [yields_negate_iff, yields_negate_iff, stops_negate_iff, succeeds_negate_iff,
    succeeds_negate_iff, stops_negate_iff]

theorem yields_guard_guard_iff :
    body.guard.guard.Yields library input outcome ↔ body.guard.Yields library input outcome :=
  yields_adjust_adjust_iff fun ended => by cases ended <;> rfl

theorem yields_keepRight_guard_of_succeeds (h : first.Succeeds library input) :
    (keepRight first.guard second).Yields library input outcome ↔
      second.Yields library input outcome := by
  have passed : first.guard.Yields library input (.success .unit input) :=
    yields_guard_success_iff.mpr ⟨h, rfl, rfl⟩
  have same (other : Outcome ρ Value) : other.map (fun value => value) = other :=
    Outcome.map_eq_self fun _ _ _ => rfl
  rw [keepRight, yields_sequence_of_success passed]
  simp only [same]
  exact exists_eq_right'

/-- Where the parser of a positive lookahead stops, what follows is not run. -/
theorem yields_keepRight_guard_of_stopped {ended : Outcome ρ Value}
    (h : first.Yields library input ended) (stopped : ended.isSuccess = false) :
    (keepRight first.guard second).Yields library input outcome ↔
      outcome = Adjustment.guard.apply input ended := by
  have looked : first.guard.Yields library input (Adjustment.guard.apply input ended) :=
    (yields_adjust_of_yields h).mpr rfl
  refine yields_sequence_of_stopped looked ?_
  cases ended with
  | success v there => cases stopped
  | failure message there => rfl
  | error message there => rfl

theorem yields_seq_guard_success_iff :
    (seq first.guard second.guard).Yields library input (.success value r) ↔
      (first.Succeeds library input ∧ second.Succeeds library input) ∧
        value = .pair .unit .unit ∧ r = input := by
  rw [seq, yields_sequence_success_iff]
  simp only [yields_guard_success_iff]
  constructor
  · rintro ⟨_, _, _, ⟨succeeds, rfl, rfl⟩, ⟨succeeds', rfl, rfl⟩, rfl⟩
    exact ⟨⟨succeeds, succeeds'⟩, rfl, rfl⟩
  · rintro ⟨⟨succeeds, succeeds'⟩, rfl, rfl⟩
    exact ⟨_, _, _, ⟨succeeds, rfl, rfl⟩, ⟨succeeds', rfl, rfl⟩, rfl⟩

theorem yields_seq_negate_success_iff :
    (seq first.negate second.negate).Yields library input (.success value r) ↔
      (first.Stops library input ∧ second.Stops library input) ∧
        value = .pair .unit .unit ∧ r = input := by
  rw [seq, yields_sequence_success_iff]
  simp only [yields_negate_success_iff]
  constructor
  · rintro ⟨_, _, _, ⟨stops, rfl, rfl⟩, ⟨stops', rfl, rfl⟩, rfl⟩
    exact ⟨⟨stops, stops'⟩, rfl, rfl⟩
  · rintro ⟨⟨stops, stops'⟩, rfl, rfl⟩
    exact ⟨_, _, _, ⟨stops, rfl, rfl⟩, ⟨stops', rfl, rfl⟩, rfl⟩

/-- Alternatives stop where both of them do, as long as the first one has no error. -/
theorem stops_choice_iff (calm : ∀ message r, ¬ first.Yields library input (.error message r)) :
    (choice first second).Stops library input ↔
      first.Stops library input ∧ second.Stops library input := by
  constructor
  · rintro ⟨outcome, yields, stopped⟩
    obtain ⟨head, hfirst, ⟨settled, rfl⟩ | ⟨message, there, other, rfl, hsecond, rfl⟩⟩ :=
      yields_choice_iff.mp yields
    · cases outcome with
      | success v there => cases stopped
      | failure message there => exact absurd rfl (settled message there)
      | error message there => exact absurd hfirst (calm message there)
    · rw [Outcome.isSuccess_furthest] at stopped
      exact ⟨⟨_, hfirst, rfl⟩, other, hsecond, stopped⟩
  · rintro ⟨⟨head, hfirst, stopped⟩, other, hsecond, stopped'⟩
    cases head with
    | success v there => cases stopped
    | error message there => exact absurd hfirst (calm message there)
    | failure message there =>
      refine ⟨_, (yields_choice_of_failure hfirst).mpr ⟨other, hsecond, rfl⟩, ?_⟩
      rw [Outcome.isSuccess_furthest, stopped']

end Parser

end SafeDescent
