import SafeDescent.Parser.Report

namespace SafeDescent

namespace Outcome

variable {ρ ε α β γ : Type}

@[simp] theorem map_map (f : α → β) (g : β → γ) (outcome : Outcome ρ α) :
    (outcome.map f).map g = outcome.map fun value => g (f value) := by
  cases outcome <;> rfl

@[simp] theorem isSuccess_map (f : α → β) (outcome : Outcome ρ α) :
    (outcome.map f).isSuccess = outcome.isSuccess := by
  cases outcome <;> rfl

theorem isSuccess_eq_of_map_eq {outcome : Outcome ρ α} {other : Outcome ρ β} {f : α → γ} {g : β → γ}
    (same : outcome.map f = other.map g) : outcome.isSuccess = other.isSuccess := by
  rw [← isSuccess_map f, same, isSuccess_map]

theorem map_eq_self {f : α → α} {outcome : Outcome ρ α}
    (h : ∀ value r, outcome = .success value r → f value = value) : outcome.map f = outcome := by
  cases outcome with
  | success value r => exact congrArg (Outcome.success · r) (h value r rfl)
  | failure message r => rfl
  | error message r => rfl

theorem map_of_isSuccess_false {outcome : Outcome ρ α} (stopped : outcome.isSuccess = false)
    (f : α → α) : outcome.map f = outcome := by
  refine map_eq_self fun value r succeeded => ?_
  rw [succeeded] at stopped
  cases stopped

/-- Outcomes without a value stay the same, whatever would be made of the value. -/
theorem map_eq_map_of_stopped {outcome : Outcome ρ α} {other : Outcome ρ β} {f : α → γ} {g : β → γ}
    (stopped : outcome.isSuccess = false) (same : outcome.map f = other.map g) {δ : Type}
    (f' : α → δ) (g' : β → δ) : outcome.map f' = other.map g' := by
  cases outcome with
  | success value r => cases stopped
  | failure message r =>
    cases other with
    | failure message' r' =>
      cases same
      rfl
    | success | error => cases same
  | error message r =>
    cases other with
    | error message' r' =>
      cases same
      rfl
    | success | failure => cases same

theorem flatMap_flatMap (outcome : Outcome ρ α) (next : α → ρ → Outcome ρ β)
    (after : β → ρ → Outcome ρ γ) :
    (outcome.flatMap next).flatMap after =
      outcome.flatMap fun value r => (next value r).flatMap after := by
  cases outcome <;> rfl

theorem remaining_map (f : α → β) (outcome : Outcome ρ α) :
    (outcome.map f).remaining = outcome.remaining := by
  cases outcome <;> rfl

variable [Reader ρ ε]

theorem furthest_success (message : String) (stopped : ρ) (value : α) (r : ρ) :
    (Outcome.success value r).furthest message stopped = .success value r := rfl

theorem furthest_failure (message other : String) (stopped r : ρ) :
    (Outcome.failure other r : Outcome ρ α).furthest message stopped =
      if Reader.offset stopped < Reader.offset r then .failure other r
      else .failure message stopped := rfl

theorem furthest_error (message other : String) (stopped r : ρ) :
    (Outcome.error other r : Outcome ρ α).furthest message stopped =
      if Reader.offset stopped < Reader.offset r then .error other r
      else .failure message stopped := rfl

theorem remaining_requireEnd [Element ε] (outcome : Outcome ρ α) :
    outcome.requireEnd.remaining = outcome.remaining := by
  cases outcome with
  | success value r =>
    simp only [requireEnd]
    split <;> rfl
  | failure message r => rfl
  | error message r => rfl

theorem requireEnd_requireEnd [Element ε] (outcome : Outcome ρ α) :
    outcome.requireEnd.requireEnd = outcome.requireEnd := by
  cases outcome with
  | success value r =>
    by_cases ended : Reader.atEnd r = true
    · have stays : (success value r).requireEnd = .success value r := if_pos ended
      rw [stays, stays]
    · have stops : (success value r).requireEnd = .mismatch (.notAtEnd (Reader.first r)) r :=
        if_neg ended
      rw [stops]
      rfl
  | failure message r => rfl
  | error message r => rfl

end Outcome

variable {ρ ε : Type} [Reader ρ ε] [Element ε]

/-- What is made of the outcome of a run, by how much of the input a parse has to read. -/
def Extent.finish : Extent → Outcome ρ Value → Outcome ρ Value
  | .part, outcome => outcome
  | .whole, outcome => outcome.requireEnd

theorem Extent.remaining_finish (extent : Extent) (outcome : Outcome ρ Value) :
    (extent.finish outcome).remaining = outcome.remaining := by
  cases extent with
  | part => rfl
  | whole => exact outcome.remaining_requireEnd

/-- A parse reports the finished outcome of a run. -/
theorem Store.map_outcome_parse [DecidableEq ε] (store : Store) (library : Library ε) (fuel : Nat)
    (extent : Extent) (parser : Parser ε) (input : ρ) :
    (store.parse library fuel extent parser input).map (fun parsed => parsed.1.outcome) =
      (store.silence.run library fuel parser input).map fun ended => extent.finish ended.1 := by
  cases extent with
  | part =>
    simp only [Store.parse, Option.map_map]
    rfl
  | whole =>
    simp only [Store.parse, Store.runAll, Option.map_map]
    congr 1
    funext ⟨outcome, last⟩
    simp only [Function.comp, Extent.finish]
    split <;> rfl

end SafeDescent
