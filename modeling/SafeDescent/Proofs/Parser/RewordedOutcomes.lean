import SafeDescent.Proofs.Parser.PairedFrames
import SafeDescent.Proofs.Parser.Reworded

namespace SafeDescent

variable {ρ ε : Type}

/-- Outcomes of one kind and position, with the same value, that differ at most in the message. -/
inductive Outcome.Reworded {α : Type} : Outcome ρ α → Outcome ρ α → Prop
  | success (value : α) (r : ρ) : Outcome.Reworded (.success value r) (.success value r)
  | failure (message message' : String) (r : ρ) :
      Outcome.Reworded (.failure message r) (.failure message' r)
  | error (message message' : String) (r : ρ) :
      Outcome.Reworded (.error message r) (.error message' r)

/-- Starts at the same position of parsers that differ at most in what belongs to messages. -/
def Start.Reworded (start start' : Start ρ ε) : Prop :=
  start.input = start'.input ∧ start.parser.Reworded start'.parser

/-- The parser that is to start adjusts the message of another one. -/
def Start.rewords (start : Start ρ ε) : Bool :=
  match start.parser with
  | .adjust adjustment _ => adjustment.rewords
  | _ => false

namespace Outcome

variable {α : Type}

theorem reworded_equivalence : Equivalence (Reworded : Outcome ρ α → Outcome ρ α → Prop) where
  refl := by
    intro outcome
    cases outcome with
    | success value r => exact .success value r
    | failure message r => exact .failure message message r
    | error message r => exact .error message message r
  symm := by
    intro outcome outcome' h
    cases h with
    | success value r => exact .success value r
    | failure message message' r => exact .failure message' message r
    | error message message' r => exact .error message' message r
  trans := by
    intro first second third h h'
    cases h with
    | success => exact h'
    | failure => cases h' with | failure => exact .failure ..
    | error => cases h' with | error => exact .error ..

theorem reworded_iff_paired {outcome outcome' : Outcome ρ α} :
    outcome.Reworded outcome' ↔ outcome.Paired (fun _ _ => True) Eq outcome' := by
  constructor
  · intro h
    cases h with
    | success value r => exact .success value rfl
    | failure message message' r => exact .failure trivial rfl
    | error message message' r => exact .error trivial rfl
  · intro h
    cases h with
    | success value hr => exact hr ▸ .success value _
    | failure _ hr => exact hr ▸ .failure ..
    | error _ hr => exact hr ▸ .error ..

theorem Reworded.finish [Reader ρ ε] [Element ε] {outcome outcome' : Outcome ρ Value}
    (h : outcome.Reworded outcome') (extent : Extent) :
    (extent.finish outcome).Reworded (extent.finish outcome') :=
  reworded_iff_paired.mpr
    ((reworded_iff_paired.mp h).finish Reader.corresponds_eq (fun _ => trivial) extent)

end Outcome

/-- Parsers that differ at most in what belongs to messages, at the same position. -/
def Pairing.reworded [Reader ρ ε] : Pairing ρ ρ ε where
  parsers := Parser.Reworded
  starts := Start.Reworded
  outcomes := Outcome.Reworded
  positions := Eq
  messages := fun _ _ => True
  adjustments := fun _ => True
  start hp hr := ⟨hr, hp⟩
  operations ho hs := .many (.sequence hs ho)
  outcomes_iff := Outcome.reworded_iff_paired
  corresponds := Reader.corresponds_eq
  same _ := trivial
  spans := spansAgree_eq

end SafeDescent
