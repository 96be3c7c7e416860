import SafeDescent.Proofs.Parser.Substitution

namespace SafeDescent

variable {ρ ε : Type}

namespace Parser

/-- Nothing has to hold the parser while it runs: every recursive definition in it stands under a
loop, which holds it, or has its place elsewhere. Copies that stand under no loop are of definitions
with given names, of which the same can be required. -/
def Portable (names : String → Prop) : Parser ε → Prop
  | .primitive _ => True
  | .sequence _ first second => first.Portable names ∧ second.Portable names
  | .choice first second => first.Portable names ∧ second.Portable names
  | .many _ _ => True
  | .chain _ _ _ _ => True
  | .adjust _ body => body.Portable names
  | .flatMap body _ => body.Portable names
  | .select body _ branches => body.Portable names ∧ ∀ i, (branches i).Portable names
  | .tap _ body => body.Portable names
  | .deferred _ body => body.Portable names
  | .fixpoint _ _ _ => False
  | .copied _ name scope => names name ∧ ∀ target, (scope target).Portable names
  | .reference _ => True
  | .handle _ _ _ => True
  | .shared _ => True

/-- One parser at two places. The paths and labels of its definitions do not count, but each
recursive definition is held at both places or at neither, and so are copies that might make one. -/
inductive Relocated (names : String → Prop) : Parser ε → Parser ε → Prop
  | primitive (p : Primitive ε) : Relocated names (.primitive p) (.primitive p)
  | sequence {combine : Value → Value → Value} {first first' second second' : Parser ε} :
      Relocated names first first' → Relocated names second second' →
        Relocated names (.sequence combine first second) (.sequence combine first' second')
  | choice {first first' second second' : Parser ε} : Relocated names first first' →
      Relocated names second second' → Relocated names (.choice first second) (.choice first' second')
  | many {bounds : Bounds} {body body' : Parser ε} :
      Relocated names body body' → Relocated names (.many bounds body) (.many bounds body')
  | chain {join : Value → Value → Value → Value} {bounds : Bounds}
      {operand operand' separator separator' : Parser ε} : Relocated names operand operand' →
      Relocated names separator separator' →
        Relocated names (.chain join bounds operand separator) (.chain join bounds operand' separator')
  | adjust {adjustment : Adjustment} {body body' : Parser ε} :
      Relocated names body body' → Relocated names (.adjust adjustment body) (.adjust adjustment body')
  | flatMap {body body' : Parser ε} {next next' : Value → Parser ε} : Relocated names body body' →
      (∀ v, Relocated names (next v) (next' v)) →
        Relocated names (.flatMap body next) (.flatMap body' next')
  | select {body body' : Parser ε} {index : Value → Nat} {branches branches' : Nat → Parser ε} :
      Relocated names body body' → (∀ i, Relocated names (branches i) (branches' i)) →
        Relocated names (.select body index branches) (.select body' index branches')
  | tap {id : String} {body body' : Parser ε} :
      Relocated names body body' → Relocated names (.tap id body) (.tap id body')
  | deferred {site site' : Site} {body body' : Parser ε} :
      Relocated names body body' → Relocated names (.deferred site body) (.deferred site' body')
  | fixpoint {site site' : Site} {name : String} {body body' : Parser ε} :
      site.kept = site'.kept → Relocated names body body' →
        Relocated names (.fixpoint site name body) (.fixpoint site' name body')
  | copied {site site' : Site} {name : String} {scope scope' : Reference → Parser ε} :
      site.kept = site'.kept ∨ names name ∧ (∀ target, (scope target).Portable names) →
      (∀ target, Relocated names (scope target) (scope' target)) →
        Relocated names (.copied site name scope) (.copied site' name scope')
  | reference (target : Reference) : Relocated names (.reference target) (.reference target)
  | handle {site site' : Site} {name : String} {body body' : Parser ε} :
      site.kept = site'.kept → Relocated names body body' →
        Relocated names (.handle site name body) (.handle site' name body')
  | shared {body body' : Parser ε} :
      Relocated names body body' → Relocated names (.shared body) (.shared body')

variable {names : String → Prop} {parser parser' : Parser ε} {meaning meaning' : Reference → Parser ε}

theorem Portable.substitute (h : parser.Portable names) (hm : ∀ target, (meaning target).Portable names) :
    (parser.substitute meaning).Portable names := by
  induction parser generalizing meaning with
  | sequence combine first second ih₁ ih₂ => exact ⟨ih₁ h.1 hm, ih₂ h.2 hm⟩
  | choice first second ih₁ ih₂ => exact ⟨ih₁ h.1 hm, ih₂ h.2 hm⟩
  | flatMap body next ih₁ ih₂ => exact ih₁ h hm
  | select body index branches ih₁ ih₂ => exact ⟨ih₁ h.1 hm, fun i => ih₂ i (h.2 i) hm⟩
  | fixpoint site name body ih => exact h.elim
  | copied site name scope ih => exact ⟨h.1, fun target => ih target (h.2 target) hm⟩
  | reference target => exact hm target
  | adjust _ _ ih | tap _ _ ih | deferred _ _ ih => exact ih h hm
  | primitive | many | chain | handle | shared => trivial

theorem Relocated.refl (parser : Parser ε) : Relocated names parser parser := by
  induction parser with
  | primitive p => exact .primitive p
  | sequence combine first second ih₁ ih₂ => exact .sequence ih₁ ih₂
  | choice first second ih₁ ih₂ => exact .choice ih₁ ih₂
  | many bounds body ih => exact .many ih
  | chain join bounds operand separator ih₁ ih₂ => exact .chain ih₁ ih₂
  | adjust adjustment body ih => exact .adjust ih
  | flatMap body next ih₁ ih₂ => exact .flatMap ih₁ ih₂
  | select body index branches ih₁ ih₂ => exact .select ih₁ ih₂
  | tap id body ih => exact .tap ih
  | deferred site body ih => exact .deferred ih
  | fixpoint site name body ih => exact .fixpoint rfl ih
  | copied site name scope ih => exact .copied (.inl rfl) ih
  | reference target => exact .reference target
  | handle site name body ih => exact .handle rfl ih
  | shared body ih => exact .shared ih

/-- A parser can be given any two places if both of them are held or neither is. What is portable can
be given any two places at all. -/
theorem Relocated.place (h : Relocated names parser parser') {kept kept' : Bool}
    (free : kept = kept' ∨ parser.Portable names) (path path' : List Nat) :
    Relocated names (parser.place kept path) (parser'.place kept' path') := by
  induction h generalizing kept kept' path path' with
  | primitive p => exact .primitive p
  | sequence _ _ ih₁ ih₂ =>
    exact .sequence (ih₁ (free.imp_right And.left) ..) (ih₂ (free.imp_right And.right) ..)
  | choice _ _ ih₁ ih₂ =>
    exact .choice (ih₁ (free.imp_right And.left) ..) (ih₂ (free.imp_right And.right) ..)
  | many _ ih => exact .many (ih (.inl rfl) ..)
  | chain _ _ ih₁ ih₂ => exact .chain (ih₁ (.inl rfl) ..) (ih₂ (.inl rfl) ..)
  | adjust _ ih => exact .adjust (ih free ..)
  | flatMap _ hn ih _ => exact .flatMap (ih free ..) hn
  | select _ _ ih₁ ih₂ =>
    exact .select (ih₁ (free.imp_right And.left) ..) fun i => ih₂ i (free.imp_right (·.2 i)) ..
  | tap _ ih => exact .tap (ih free ..)
  | deferred _ ih => exact .deferred (ih free ..)
  | fixpoint _ _ ih =>
    have held := free.resolve_right id
    exact .fixpoint held (ih (.inl held) ..)
  | copied _ hs _ => exact .copied free hs
  | reference target => exact .reference target
  | handle hk hb _ => exact .handle hk hb
  | shared hb _ => exact .shared hb

theorem Relocated.substitute (h : Relocated names parser parser')
    (hm : ∀ target, Relocated names (meaning target) (meaning' target))
    (portable : ∀ target, (meaning target).Portable names) :
    Relocated names (parser.substitute meaning) (parser'.substitute meaning') := by
  induction h generalizing meaning meaning' with
  | primitive p => exact .primitive p
  | sequence _ _ ih₁ ih₂ => exact .sequence (ih₁ hm portable) (ih₂ hm portable)
  | choice _ _ ih₁ ih₂ => exact .choice (ih₁ hm portable) (ih₂ hm portable)
  | many _ ih => exact .many (ih hm portable)
  | chain _ _ ih₁ ih₂ => exact .chain (ih₁ hm portable) (ih₂ hm portable)
  | adjust _ ih => exact .adjust (ih hm portable)
  | flatMap _ _ ih₁ ih₂ => exact .flatMap (ih₁ hm portable) fun v => ih₂ v hm portable
  | select _ _ ih₁ ih₂ => exact .select (ih₁ hm portable) fun i => ih₂ i hm portable
  | tap _ ih => exact .tap (ih hm portable)
  | deferred _ ih => exact .deferred (ih hm portable)
  | fixpoint hk _ ih =>
    refine .fixpoint hk (ih (fun target => ?_) fun target => ?_)
    · split
      · exact .reference target
      · exact hm target
    · split
      · trivial
      · exact portable target
  | copied free _ ih =>
    refine .copied (free.imp_right fun copies => ⟨copies.1, fun target => ?_⟩) fun target =>
      ih target hm portable
    exact (copies.2 target).substitute portable
  | reference target => exact hm target
  | handle hk hb _ => exact .handle hk hb
  | shared hb _ => exact .shared hb

/-- A definition that is copied to two places may have any parsers for its names. -/
theorem Relocated.fill (parser : Parser ε)
    (hm : ∀ target, Relocated names (meaning target) (meaning' target)) :
    Relocated names (parser.substitute meaning) (parser.substitute meaning') := by
  induction parser generalizing meaning meaning' with
  | primitive p => exact .primitive p
  | sequence combine first second ih₁ ih₂ => exact .sequence (ih₁ hm) (ih₂ hm)
  | choice first second ih₁ ih₂ => exact .choice (ih₁ hm) (ih₂ hm)
  | many bounds body ih => exact .many (ih hm)
  | chain join bounds operand separator ih₁ ih₂ => exact .chain (ih₁ hm) (ih₂ hm)
  | adjust adjustment body ih => exact .adjust (ih hm)
  | flatMap body next ih₁ ih₂ => exact .flatMap (ih₁ hm) fun v => ih₂ v hm
  | select body index branches ih₁ ih₂ => exact .select (ih₁ hm) fun i => ih₂ i hm
  | tap id body ih => exact .tap (ih hm)
  | deferred site body ih => exact .deferred (ih hm)
  | fixpoint site name body ih =>
    refine .fixpoint rfl (ih fun target => ?_)
    split
    · exact .reference target
    · exact hm target
  | copied site name scope ih => exact .copied (.inl rfl) fun target => ih target hm
  | reference target => exact hm target
  | handle site name body ih => exact .refl _
  | shared body ih => exact .refl _

theorem Relocated.unfold (h : Relocated names parser parser') {site site' : Site} {name : String}
    (hk : site.kept = site'.kept) :
    Relocated names (Parser.unfold site name parser) (Parser.unfold site' name parser') := by
  refine h.substitute (fun target => ?_) fun target => ?_
  · unfold Parser.only
    split
    · exact .handle hk h
    · exact .reference target
  · unfold Parser.only
    split <;> trivial

end Parser

end SafeDescent
