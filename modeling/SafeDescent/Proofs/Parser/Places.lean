import SafeDescent.Proofs.Parser.Substitution

namespace SafeDescent

variable {ρ ε : Type}

namespace Parser

/-- A parser as it is written, before anything in it has got its place. -/
def Plain : Parser ε → Prop
  | .primitive _ => True
  | .sequence _ first second => first.Plain ∧ second.Plain
  | .choice first second => first.Plain ∧ second.Plain
  | .many _ body => body.Plain
  | .chain _ _ operand separator => operand.Plain ∧ separator.Plain
  | .adjust _ body => body.Plain
  | .flatMap body next => body.Plain ∧ ∀ v, (next v).Plain
  | .select body _ branches => body.Plain ∧ ∀ i, (branches i).Plain
  | .tap _ body => body.Plain
  | .deferred site body => site = {} ∧ body.Plain
  | .fixpoint site _ body => site = {} ∧ body.Plain
  | .copied site _ scope => site = {} ∧ scope = .reference
  | .reference _ => True
  | .handle _ _ _ => False
  | .shared _ => False

/-- The part of a parser that one more step on a path leads to. -/
def child? (library : Library ε) : Parser ε → Nat → Option (Parser ε)
  | .sequence _ first _, 0 => some first
  | .sequence _ _ second, 1 => some second
  | .choice first _, 0 => some first
  | .choice _ second, 1 => some second
  | .many _ body, 0 => some body
  | .chain _ _ operand _, 0 => some operand
  | .chain _ _ _ separator, 1 => some separator
  | .adjust _ body, 0 => some body
  | .flatMap body _, 0 => some body
  | .select body _ _, 0 => some body
  | .select _ _ branches, i + 1 => some (branches i)
  | .tap _ body, 0 => some body
  | .deferred _ body, 0 => some body
  | .fixpoint site name body, 0 => some (.unfold site name body)
  | .copied site name scope, 0 =>
    (library name).map fun body => (body.substitute scope).place site.kept (0 :: site.path)
  | _, _ => none

/-- The parser at the end of a path, given the parsers that have got numbers. -/
def find? (library : Library ε) (made : Nat → Option (Parser ε)) : List Nat → Option (Parser ε)
  | [] => none
  | [number] => made number
  | step :: next :: path => (find? library made (next :: path)).bind (child? library · step)

/-- Each definition in the parser has the path of its place, and each handle leads to a definition
at the place where it belongs. -/
inductive Placed (library : Library ε) (made : Nat → Option (Parser ε)) :
    List Nat → Parser ε → Prop
  | primitive {path : List Nat} (p : Primitive ε) : Placed library made path (.primitive p)
  | sequence {path : List Nat} {combine : Value → Value → Value} {first second : Parser ε} :
      Placed library made (0 :: path) first → Placed library made (1 :: path) second →
        Placed library made path (.sequence combine first second)
  | choice {path : List Nat} {first second : Parser ε} :
      Placed library made (0 :: path) first → Placed library made (1 :: path) second →
        Placed library made path (.choice first second)
  | many {path : List Nat} {bounds : Bounds} {body : Parser ε} :
      Placed library made (0 :: path) body → Placed library made path (.many bounds body)
  | chain {path : List Nat} {join : Value → Value → Value → Value} {bounds : Bounds}
      {operand separator : Parser ε} : Placed library made (0 :: path) operand →
      Placed library made (1 :: path) separator →
        Placed library made path (.chain join bounds operand separator)
  | adjust {path : List Nat} {adjustment : Adjustment} {body : Parser ε} :
      Placed library made (0 :: path) body → Placed library made path (.adjust adjustment body)
  | flatMap {path : List Nat} {body : Parser ε} {next : Value → Parser ε} :
      Placed library made (0 :: path) body →
      (∀ v path, Placed library made path ((next v).place false path)) →
        Placed library made path (.flatMap body next)
  | select {path : List Nat} {body : Parser ε} {index : Value → Nat}
      {branches : Nat → Parser ε} : Placed library made (0 :: path) body →
      (∀ i, Placed library made ((i + 1) :: path) (branches i)) →
        Placed library made path (.select body index branches)
  | tap {path : List Nat} {id : String} {body : Parser ε} :
      Placed library made (0 :: path) body → Placed library made path (.tap id body)
  | deferred {site : Site} {body : Parser ε} :
      Placed library made (0 :: site.path) body →
        Placed library made site.path (.deferred site body)
  | fixpoint {site : Site} {name : String} {body : Parser ε} :
      Placed library made (0 :: site.path) body →
        Placed library made site.path (.fixpoint site name body)
  | copied {site : Site} {name : String} {scope : Reference → Parser ε} : Sealing scope →
      (∀ target path, Placed library made path (scope target)) →
        Placed library made site.path (.copied site name scope)
  | reference {path : List Nat} (target : Reference) :
      Placed library made path (.reference target)
  | handle {path : List Nat} {site : Site} {name : String} {body : Parser ε} :
      find? library made site.path = some (.fixpoint site name body) →
        Placed library made path (.handle site name body)

variable {library : Library ε} {made more : Nat → Option (Parser ε)} {parser part : Parser ε}
  {path : List Nat} {meaning : Reference → Parser ε}

theorem Plain.placed (h : parser.Plain) (kept : Bool) (path : List Nat) :
    Placed library made path (parser.place kept path) := by
  induction parser generalizing kept path with
  | primitive p => exact .primitive p
  | sequence combine first second ih₁ ih₂ => exact .sequence (ih₁ h.1 ..) (ih₂ h.2 ..)
  | choice first second ih₁ ih₂ => exact .choice (ih₁ h.1 ..) (ih₂ h.2 ..)
  | many bounds body ih => exact .many (ih h ..)
  | chain join bounds operand separator ih₁ ih₂ => exact .chain (ih₁ h.1 ..) (ih₂ h.2 ..)
  | adjust adjustment body ih => exact .adjust (ih h ..)
  | flatMap body next ih₁ ih₂ => exact .flatMap (ih₁ h.1 ..) fun v path => ih₂ v (h.2 v) ..
  | select body index branches ih₁ ih₂ =>
    exact .select (ih₁ h.1 ..) fun i => ih₂ i (h.2 i) ..
  | tap id body ih => exact .tap (ih h ..)
  | deferred site body ih =>
    exact @Placed.deferred _ _ _ ⟨path, kept, site.label⟩ _ (ih h.2 ..)
  | fixpoint site name body ih =>
    exact @Placed.fixpoint _ _ _ ⟨path, kept, site.label⟩ _ _ (ih h.2 ..)
  | copied site name scope ih =>
    obtain ⟨-, rfl⟩ := h
    exact @Placed.copied _ _ _ ⟨path, kept, site.label⟩ _ _ closing_reference.sealing
      fun target path => .reference target
  | reference target => exact .reference target
  | handle site name body => exact h.elim
  | shared body => exact h.elim

theorem Placed.substitute (h : Placed library made path parser) (sealing : Sealing meaning)
    (hm : ∀ target path, Placed library made path (meaning target)) :
    Placed library made path (parser.substitute meaning) := by
  induction h generalizing meaning with
  | primitive p => exact .primitive p
  | sequence _ _ ih₁ ih₂ => exact .sequence (ih₁ sealing hm) (ih₂ sealing hm)
  | choice _ _ ih₁ ih₂ => exact .choice (ih₁ sealing hm) (ih₂ sealing hm)
  | many _ ih => exact .many (ih sealing hm)
  | chain _ _ ih₁ ih₂ => exact .chain (ih₁ sealing hm) (ih₂ sealing hm)
  | adjust _ ih => exact .adjust (ih sealing hm)
  | flatMap _ _ ih₁ ih₂ =>
    refine .flatMap (ih₁ sealing hm) fun v path => ?_
    rw [place_substitute sealing]
    exact ih₂ v path sealing hm
  | select _ _ ih₁ ih₂ => exact .select (ih₁ sealing hm) fun i => ih₂ i sealing hm
  | tap _ ih => exact .tap (ih sealing hm)
  | deferred _ ih => exact .deferred (ih sealing hm)
  | @fixpoint site name body _ ih =>
    refine .fixpoint (ih (sealing.under name) fun target path => ?_)
    split
    · exact .reference target
    · exact hm target path
  | copied hs _ ih => exact .copied (hs.substitute sealing) fun target path => ih target path sealing hm
  | reference target => exact hm target _
  | handle found => exact .handle found

theorem Placed.unfold {site : Site} {name : String} {body : Parser ε}
    (found : find? library made site.path = some (.fixpoint site name body))
    (h : Placed library made (0 :: site.path) body) :
    Placed library made (0 :: site.path) (Parser.unfold site name body) := by
  refine h.substitute (sealing_only (.handle ..) _) fun target path => ?_
  unfold only
  split
  · exact .handle found
  · exact .reference target

end Parser

end SafeDescent
