import SafeDescent.Proofs.Parser.Outcome
import SafeDescent.Proofs.Reader.Ahead

namespace SafeDescent

variable {ρ ε : Type}

/-- The positions that a frame remembers have a given property. -/
def Frame.Within (R : ρ → Prop) : Frame ρ ε → Prop
  | .otherwise _ start => R start
  | .comparing _ stopped => R stopped
  | .repeating _ _ _ start => R start
  | .opening _ _ _ _ start => R start
  | .adjusting _ start => R start
  | .following _ _ | .joining _ _ | .folding _ _ | .choosing _ | .selecting _ _ | .leaving _ => True

variable [Reader ρ ε]

/-- A property of positions that reading an element keeps. -/
def Reader.Closed (R : ρ → Prop) : Prop :=
  ∀ r, R r → (Reader.first r).isSome → R (Reader.rest r)

theorem Reader.Closed.read {R : ρ → Prop} (closed : Reader.Closed R) {r next : ρ} {x : ε}
    (hr : R r) (h : Reader.read r = some (x, next)) : R next := by
  obtain ⟨y, hy, he⟩ := Option.map_eq_some_iff.mp h
  obtain ⟨-, rfl⟩ := Prod.mk.inj he
  exact closed r hr (by simp [hy])

theorem Reader.closed_reaches (r : ρ) : Reader.Closed (Reader.Reaches r) :=
  fun _ reaches some => reaches.rest some

/-- Of a failure and what came after it, one gives its position to the answer. -/
theorem Outcome.furthest_within {R : ρ → Prop} {α : Type} {message : String} {stopped : ρ}
    {outcome : Outcome ρ α} (hs : R stopped) (ho : R outcome.remaining) :
    R (outcome.furthest message stopped).remaining := by
  cases outcome with
  | success value r => exact ho
  | failure other r =>
    rw [Outcome.furthest_failure]
    split
    · exact ho
    · exact hs
  | error other r =>
    rw [Outcome.furthest_error]
    split
    · exact ho
    · exact hs

variable [Element ε]

/-- An adjusted outcome stands where the parser started or where it stopped. -/
theorem Adjustment.apply_within {R : ρ → Prop} {adjustment : Adjustment} {start : ρ}
    {outcome : Outcome ρ Value} (hs : R start) (ho : R outcome.remaining) :
    R (adjustment.apply start outcome).remaining := by
  cases adjustment with
  | map f =>
    have : (outcome.map f).remaining = outcome.remaining := outcome.remaining_map f
    exact this ▸ ho
  | phrase =>
    have : outcome.requireEnd.remaining = outcome.remaining := outcome.remaining_requireEnd
    exact this ▸ ho
  | optional | negate | guard | commit | failureMessage | errorMessage | spanned =>
    cases outcome <;> first | exact ho | exact hs

end SafeDescent
