import SafeDescent.Parser.Primitive

namespace SafeDescent

/-- What is done with the outcome of a parser once it is known. -/
inductive Adjustment where
  /-- Changes the value of a success. -/
  | map (f : Value → Value)
  /-- Turns a failure into a missing value at the start. -/
  | optional
  /-- Succeeds at the start exactly when there was no success. -/
  | negate
  /-- Goes back to the start and drops the value. -/
  | guard
  /-- Turns a failure into an error. -/
  | commit
  | failureMessage (message : String)
  | errorMessage (message : String)
  /-- Requires that no input is left. -/
  | phrase
  /-- Adds the offsets of the start and of the end to the value. -/
  | spanned

/-- The outcome after the adjustment, for a parser that started at `start`. -/
def Adjustment.apply {ρ ε : Type} [Reader ρ ε] [Element ε] (adjustment : Adjustment) (start : ρ)
    (outcome : Outcome ρ Value) : Outcome ρ Value :=
  match adjustment, outcome with
  | .map f, outcome => outcome.map f
  | .optional, .success v r => .success (.some v) r
  | .optional, .failure _ _ => .success .none start
  | .optional, .error message r => .error message r
  | .negate, .success _ _ => .failure "negative lookahead failed: unexpected match" start
  | .negate, _ => .success .unit start
  | .guard, .success _ _ => .success .unit start
  | .guard, .failure message _ => .failure message start
  | .guard, .error message _ => .error message start
  | .commit, .failure message r => .error message r
  | .commit, outcome => outcome
  | .failureMessage message, .failure _ r => .failure message r
  | .failureMessage _, outcome => outcome
  | .errorMessage message, .error _ r => .error message r
  | .errorMessage _, outcome => outcome
  | .phrase, outcome => outcome.requireEnd
  | .spanned, .success v r =>
    .success (.tuple [v, .span ⟨Reader.offset start, Reader.offset r⟩]) r
  | .spanned, outcome => outcome

end SafeDescent
