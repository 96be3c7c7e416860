import SafeDescent.Parser

namespace SafeDescent.Parser

variable {ε : Type}

/-- The primitive parsers and the adjustments in a parser are of given kinds, also in the parsers
that its functions make and in those that its handles lead to. -/
def MadeOf (primitives : Primitive ε → Prop) (adjustments : Adjustment → Prop) : Parser ε → Prop
  | .primitive p => primitives p
  | .sequence _ first second =>
    first.MadeOf primitives adjustments ∧ second.MadeOf primitives adjustments
  | .choice first second =>
    first.MadeOf primitives adjustments ∧ second.MadeOf primitives adjustments
  | .many _ body => body.MadeOf primitives adjustments
  | .chain _ _ operand separator =>
    operand.MadeOf primitives adjustments ∧ separator.MadeOf primitives adjustments
  | .adjust adjustment body => adjustments adjustment ∧ body.MadeOf primitives adjustments
  | .flatMap body next =>
    body.MadeOf primitives adjustments ∧ ∀ v, (next v).MadeOf primitives adjustments
  | .select body _ branches =>
    body.MadeOf primitives adjustments ∧ ∀ i, (branches i).MadeOf primitives adjustments
  | .tap _ body => body.MadeOf primitives adjustments
  | .deferred _ body => body.MadeOf primitives adjustments
  | .fixpoint _ _ body => body.MadeOf primitives adjustments
  | .copied _ _ scope => ∀ target, (scope target).MadeOf primitives adjustments
  | .reference _ => True
  | .handle _ _ body => body.MadeOf primitives adjustments
  | .shared body => body.MadeOf primitives adjustments

theorem madeOf_anything (parser : Parser ε) :
    parser.MadeOf (fun _ => True) (fun _ => True) := by
  induction parser with
  | primitive p => trivial
  | sequence combine first second ih₁ ih₂ => exact ⟨ih₁, ih₂⟩
  | choice first second ih₁ ih₂ => exact ⟨ih₁, ih₂⟩
  | chain join bounds operand separator ih₁ ih₂ => exact ⟨ih₁, ih₂⟩
  | adjust adjustment body ih => exact ⟨trivial, ih⟩
  | flatMap body next ih₁ ih₂ => exact ⟨ih₁, ih₂⟩
  | select body index branches ih₁ ih₂ => exact ⟨ih₁, ih₂⟩
  | reference target => trivial
  | _ => assumption

/-- The parsers are the same but for the paths and labels of their definitions, and their
adjustments are of a given kind. -/
inductive Alike (adjustments : Adjustment → Prop) : Parser ε → Parser ε → Prop
  | primitive (p : Primitive ε) : Alike adjustments (.primitive p) (.primitive p)
  | sequence {combine : Value → Value → Value} {first first' second second' : Parser ε} :
      Alike adjustments first first' → Alike adjustments second second' →
        Alike adjustments (.sequence combine first second) (.sequence combine first' second')
  | choice {first first' second second' : Parser ε} :
      Alike adjustments first first' → Alike adjustments second second' →
        Alike adjustments (.choice first second) (.choice first' second')
  | many {bounds : Bounds} {body body' : Parser ε} :
      Alike adjustments body body' → Alike adjustments (.many bounds body) (.many bounds body')
  | chain {join : Value → Value → Value → Value} {bounds : Bounds}
      {operand operand' separator separator' : Parser ε} :
      Alike adjustments operand operand' → Alike adjustments separator separator' →
        Alike adjustments (.chain join bounds operand separator)
          (.chain join bounds operand' separator')
  | adjust {adjustment : Adjustment} {body body' : Parser ε} :
      adjustments adjustment → Alike adjustments body body' →
        Alike adjustments (.adjust adjustment body) (.adjust adjustment body')
  | flatMap {body body' : Parser ε} {next next' : Value → Parser ε} :
      Alike adjustments body body' → (∀ v, Alike adjustments (next v) (next' v)) →
        Alike adjustments (.flatMap body next) (.flatMap body' next')
  | select {body body' : Parser ε} {index : Value → Nat} {branches branches' : Nat → Parser ε} :
      Alike adjustments body body' → (∀ i, Alike adjustments (branches i) (branches' i)) →
        Alike adjustments (.select body index branches) (.select body' index branches')
  | tap {id : String} {body body' : Parser ε} :
      Alike adjustments body body' → Alike adjustments (.tap id body) (.tap id body')
  | deferred {site site' : Site} {body body' : Parser ε} :
      Alike adjustments body body' → Alike adjustments (.deferred site body) (.deferred site' body')
  | fixpoint {site site' : Site} {name : String} {body body' : Parser ε} :
      site.kept = site'.kept → Alike adjustments body body' →
        Alike adjustments (.fixpoint site name body) (.fixpoint site' name body')
  | copied {site site' : Site} {name : String} {scope scope' : Reference → Parser ε} :
      site.kept = site'.kept → (∀ target, Alike adjustments (scope target) (scope' target)) →
        Alike adjustments (.copied site name scope) (.copied site' name scope')
  | reference (target : Reference) : Alike adjustments (.reference target) (.reference target)
  | handle {site site' : Site} {name : String} {body body' : Parser ε} :
      site.kept = site'.kept → Alike adjustments body body' →
        Alike adjustments (.handle site name body) (.handle site' name body')
  | shared {body body' : Parser ε} :
      Alike adjustments body body' → Alike adjustments (.shared body) (.shared body')

variable {adjustments : Adjustment → Prop} {parser parser' : Parser ε}

theorem MadeOf.alike {primitives : Primitive ε → Prop}
    (h : parser.MadeOf primitives adjustments) : Alike adjustments parser parser := by
  induction parser with
  | primitive p => exact .primitive p
  | sequence combine first second ih₁ ih₂ => exact .sequence (ih₁ h.1) (ih₂ h.2)
  | choice first second ih₁ ih₂ => exact .choice (ih₁ h.1) (ih₂ h.2)
  | many bounds body ih => exact .many (ih h)
  | chain join bounds operand separator ih₁ ih₂ => exact .chain (ih₁ h.1) (ih₂ h.2)
  | adjust adjustment body ih => exact .adjust h.1 (ih h.2)
  | flatMap body next ih₁ ih₂ => exact .flatMap (ih₁ h.1) fun v => ih₂ v (h.2 v)
  | select body index branches ih₁ ih₂ => exact .select (ih₁ h.1) fun i => ih₂ i (h.2 i)
  | tap id body ih => exact .tap (ih h)
  | deferred site body ih => exact .deferred (ih h)
  | fixpoint site name body ih => exact .fixpoint rfl (ih h)
  | copied site name scope ih => exact .copied rfl fun target => ih target (h target)
  | reference target => exact .reference target
  | handle site name body ih => exact .handle rfl (ih h)
  | shared body ih => exact .shared (ih h)

theorem Alike.symm (h : Alike adjustments parser parser') : Alike adjustments parser' parser := by
  induction h with
  | primitive p => exact .primitive p
  | sequence _ _ ih₁ ih₂ => exact .sequence ih₁ ih₂
  | choice _ _ ih₁ ih₂ => exact .choice ih₁ ih₂
  | many _ ih => exact .many ih
  | chain _ _ ih₁ ih₂ => exact .chain ih₁ ih₂
  | adjust ha _ ih => exact .adjust ha ih
  | flatMap _ _ ih₁ ih₂ => exact .flatMap ih₁ ih₂
  | select _ _ ih₁ ih₂ => exact .select ih₁ ih₂
  | tap _ ih => exact .tap ih
  | deferred _ ih => exact .deferred ih
  | fixpoint hk _ ih => exact .fixpoint hk.symm ih
  | copied hk _ ih => exact .copied hk.symm ih
  | reference target => exact .reference target
  | handle hk _ ih => exact .handle hk.symm ih
  | shared _ ih => exact .shared ih

/-- Giving definitions their sites leaves parsers alike, wherever the two paths lead. -/
theorem Alike.place (h : Alike adjustments parser parser') (kept : Bool) (path path' : List Nat) :
    Alike adjustments (parser.place kept path) (parser'.place kept path') := by
  induction h generalizing kept path path' with
  | primitive p => exact .primitive p
  | sequence _ _ ih₁ ih₂ => exact .sequence (ih₁ ..) (ih₂ ..)
  | choice _ _ ih₁ ih₂ => exact .choice (ih₁ ..) (ih₂ ..)
  | many _ ih => exact .many (ih ..)
  | chain _ _ ih₁ ih₂ => exact .chain (ih₁ ..) (ih₂ ..)
  | adjust ha _ ih => exact .adjust ha (ih ..)
  | flatMap _ hn ih _ => exact .flatMap (ih ..) hn
  | select _ _ ih₁ ih₂ => exact .select (ih₁ ..) fun i => ih₂ i ..
  | tap _ ih => exact .tap (ih ..)
  | deferred _ ih => exact .deferred (ih ..)
  | fixpoint _ _ ih => exact .fixpoint rfl (ih ..)
  | copied _ hs _ => exact .copied rfl hs
  | reference target => exact .reference target
  | handle hk hb _ => exact .handle hk hb
  | shared hb _ => exact .shared hb

theorem Alike.substitute (h : Alike adjustments parser parser')
    {meaning meaning' : Reference → Parser ε}
    (hm : ∀ target, Alike adjustments (meaning target) (meaning' target)) :
    Alike adjustments (parser.substitute meaning) (parser'.substitute meaning') := by
  induction h generalizing meaning meaning' with
  | primitive p => exact .primitive p
  | sequence _ _ ih₁ ih₂ => exact .sequence (ih₁ hm) (ih₂ hm)
  | choice _ _ ih₁ ih₂ => exact .choice (ih₁ hm) (ih₂ hm)
  | many _ ih => exact .many (ih hm)
  | chain _ _ ih₁ ih₂ => exact .chain (ih₁ hm) (ih₂ hm)
  | adjust ha _ ih => exact .adjust ha (ih hm)
  | flatMap _ _ ih₁ ih₂ => exact .flatMap (ih₁ hm) fun v => ih₂ v hm
  | select _ _ ih₁ ih₂ => exact .select (ih₁ hm) fun i => ih₂ i hm
  | tap _ ih => exact .tap (ih hm)
  | deferred _ ih => exact .deferred (ih hm)
  | fixpoint hk _ ih =>
    refine .fixpoint hk (ih ?_)
    intro target
    split
    · exact .reference target
    · exact hm target
  | copied hk _ ih => exact .copied hk fun target => ih target hm
  | reference target => exact hm target
  | handle hk hb _ => exact .handle hk hb
  | shared hb _ => exact .shared hb

/-- Recursive definitions that are alike unfold alike. -/
theorem Alike.unfold (h : Alike adjustments parser parser') {site site' : Site} {name : String}
    (hk : site.kept = site'.kept) :
    Alike adjustments (Parser.unfold site name parser) (Parser.unfold site' name parser') := by
  refine h.substitute ?_
  intro target
  unfold Parser.only
  split
  · exact .handle hk h
  · exact .reference target

end SafeDescent.Parser
