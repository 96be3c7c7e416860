import SafeDescent.Proofs.Parser.Equivalence
import SafeDescent.Proofs.Parser.PairedFrames
import SafeDescent.Proofs.Parser.Unfolding
import SafeDescent.Proofs.Trampoline.Delay

namespace SafeDescent

variable {ρ ε : Type}

/-- Parsers that start at the same position. The second unfolds the first. -/
def Start.Unfolds (start start' : Start ρ ε) : Prop :=
  start.input = start'.input ∧ Parser.Unfolds .reference start.parser start'.parser

variable [Reader ρ ε]

/-- Parsers of which the second unfolds the first, at the same position. -/
def Pairing.unfolds : Pairing ρ ρ ε :=
  .sameOutcomes (Parser.Unfolds .reference) Start.Unfolds (fun h => ⟨rfl, h⟩)
    fun ho hs => .many (.sequence hs ho)

variable [Element ε] [DecidableEq ε]

/-- A parser starts as the parser does that it unfolds to, or it is a definition that comes to it by
its body. -/
theorem Parser.Unfolds.delayed {parser parser' : Parser ε} (library : Library ε)
    (h : Parser.Unfolds .reference parser parser') (input : ρ) :
    (parsing library).Delayed (parsing library) Start.Unfolds (Frame.Paired .unfolds) Eq
      ⟨parser, input⟩ ⟨parser', input⟩ := by
  -- Only a definition that gives way to its body is late, and it may do so more than once.
  generalize names : (Parser.reference : Reference → Parser ε) = meaning at h
  induction h with
  | primitive p => exact .meets fun _ _ => .done rfl
  | sequence h₁ h₂ =>
    subst names
    exact .meets fun _ _ => Pairing.unfolds.run_start h₁ rfl (.following h₂)
  | choice h₁ h₂ =>
    subst names
    exact .meets fun _ _ => Pairing.unfolds.run_start h₁ rfl (.otherwise h₂ rfl)
  | many h =>
    subst names
    exact .meets fun _ _ => Pairing.unfolds.run_round h _ #[] rfl
  | chain ho hs =>
    subst names
    refine .meets fun _ _ => ?_
    simp only [parsing, Start.call]
    split
    · exact .done rfl
    · exact Pairing.unfolds.run_start ho rfl (.opening ho hs rfl)
  | adjust h =>
    subst names
    exact .meets fun _ _ => Pairing.unfolds.run_start h rfl (.adjusting trivial rfl)
  | flatMap h hn =>
    subst names
    exact .meets fun _ _ => Pairing.unfolds.run_start h rfl (.choosing hn)
  | select h hb =>
    subst names
    exact .meets fun _ _ => Pairing.unfolds.run_start h rfl (.selecting hb)
  | tap h =>
    subst names
    exact .meets fun _ _ => Pairing.unfolds.run_start h rfl (.leaving _)
  | deferred h =>
    subst names
    exact .meets fun _ _ => .more ⟨rfl, h⟩
  | fixpoint kept h =>
    subst names
    rw [under_reference, substitute_reference] at h
    exact .meets fun _ _ => .more ⟨rfl, .unfold kept h⟩
  | @copied _ site site' name scope scope' kept hs hp =>
    subst names
    have filled (target : Reference) : Follows (scope target) (scope' target) := fun finer =>
      ⟨hs target finer (refines_reference finer), fun kept path path' =>
        hp target finer kept path path' (refines_reference finer)⟩
    refine .meets fun _ _ => ?_
    simp only [parsing, Start.call, kept]
    cases library name with
    | none => exact .done rfl
    | some body => exact .more ⟨rfl, (follows_substitute body filled .reference).2 ..⟩
  | reference target => exact .meets fun _ _ => .done rfl
  | handle kept h =>
    refine .meets fun _ _ => ?_
    simp only [parsing, Start.call, kept]
    split
    · exact .more ⟨rfl, .closed_fixpoint kept h⟩
    · exact .done rfl
  | shared h => exact .meets fun _ _ => .more ⟨rfl, h⟩
  | named means =>
    subst names
    cases means
  | held kept opens =>
    refine .meets fun _ _ => ?_
    simp only [parsing, Start.call, kept, if_true]
    exact .more ⟨rfl, opens⟩
  | opened _ ih =>
    subst names
    rw [under_reference, substitute_reference] at ih
    exact .waits (fun _ => rfl) (ih rfl)

/-- Two parses go side by side if the parser of the second unfolds that of the first. -/
theorem parsing_trails (library : Library ε) :
    (parsing library).Trails (parsing library) (Start.Unfolds (ρ := ρ)) (Frame.Paired .unfolds) Eq where
  call := by
    rintro ⟨parser, input⟩ ⟨parser', _⟩ ⟨rfl, h⟩
    exact Parser.Unfolds.delayed library h input
  resume := by
    intro frame frame' outcome outcome' hf same store store'
    exact Pairing.unfolds.resume hf same store store'

end SafeDescent
