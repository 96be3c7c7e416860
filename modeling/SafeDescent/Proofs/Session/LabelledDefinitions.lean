import SafeDescent.Parser.Store
import SafeDescent.Proofs.Parser.Places

namespace SafeDescent

variable {ρ ε : Type}

namespace Parser

/-- No recursive definition that stands in the parser has a label. A handle may lead to one that
has, and a shared parser may be one, if these are among the given parsers. -/
def Unlabelled (owned : Parser ε → Prop) : Parser ε → Prop
  | .primitive _ => True
  | .sequence _ first second => first.Unlabelled owned ∧ second.Unlabelled owned
  | .choice first second => first.Unlabelled owned ∧ second.Unlabelled owned
  | .many _ body => body.Unlabelled owned
  | .chain _ _ operand separator => operand.Unlabelled owned ∧ separator.Unlabelled owned
  | .adjust _ body => body.Unlabelled owned
  | .flatMap body next => body.Unlabelled owned ∧ ∀ v, (next v).Unlabelled owned
  | .select body _ branches => body.Unlabelled owned ∧ ∀ i, (branches i).Unlabelled owned
  | .tap _ body => body.Unlabelled owned
  | .deferred _ body => body.Unlabelled owned
  | .fixpoint site _ body => site.label = none ∧ body.Unlabelled owned
  | .copied _ _ scope => ∀ target, (scope target).Unlabelled owned
  | .reference _ => True
  | .handle site name body =>
    (site.label = none ∧ body.Unlabelled owned) ∨ owned (.fixpoint site name body)
  | .shared body => owned body

variable {owned more : Parser ε → Prop} {parser : Parser ε}

theorem Plain.unlabelled (h : parser.Plain) (owned : Parser ε → Prop) :
    parser.Unlabelled owned := by
  induction parser with
  | primitive p => trivial
  | sequence combine first second ih₁ ih₂ => exact ⟨ih₁ h.1, ih₂ h.2⟩
  | choice first second ih₁ ih₂ => exact ⟨ih₁ h.1, ih₂ h.2⟩
  | many bounds body ih => exact ih h
  | chain join bounds operand separator ih₁ ih₂ => exact ⟨ih₁ h.1, ih₂ h.2⟩
  | adjust adjustment body ih => exact ih h
  | flatMap body next ih₁ ih₂ => exact ⟨ih₁ h.1, fun v => ih₂ v (h.2 v)⟩
  | select body index branches ih₁ ih₂ => exact ⟨ih₁ h.1, fun i => ih₂ i (h.2 i)⟩
  | tap id body ih => exact ih h
  | deferred site body ih => exact ih h.2
  | fixpoint site name body ih =>
    obtain ⟨rfl, hb⟩ := h
    exact ⟨rfl, ih hb⟩
  | copied site name scope ih =>
    obtain ⟨-, rfl⟩ := h
    exact fun target => trivial
  | reference target => trivial
  | handle site name body => exact h.elim
  | shared body => exact h.elim

theorem Unlabelled.mono (h : parser.Unlabelled owned) (imp : ∀ other, owned other → more other) :
    parser.Unlabelled more := by
  induction parser with
  | primitive p => trivial
  | sequence combine first second ih₁ ih₂ => exact ⟨ih₁ h.1, ih₂ h.2⟩
  | choice first second ih₁ ih₂ => exact ⟨ih₁ h.1, ih₂ h.2⟩
  | many bounds body ih => exact ih h
  | chain join bounds operand separator ih₁ ih₂ => exact ⟨ih₁ h.1, ih₂ h.2⟩
  | adjust adjustment body ih => exact ih h
  | flatMap body next ih₁ ih₂ => exact ⟨ih₁ h.1, fun v => ih₂ v (h.2 v)⟩
  | select body index branches ih₁ ih₂ => exact ⟨ih₁ h.1, fun i => ih₂ i (h.2 i)⟩
  | tap id body ih => exact ih h
  | deferred site body ih => exact ih h
  | fixpoint site name body ih => exact ⟨h.1, ih h.2⟩
  | copied site name scope ih => exact fun target => ih target (h target)
  | reference target => trivial
  | handle site name body ih =>
    rcases h with ⟨label, hb⟩ | own
    · exact .inl ⟨label, ih hb⟩
    · exact .inr (imp _ own)
  | shared body ih => exact imp _ h

theorem Unlabelled.place (h : parser.Unlabelled owned) (kept : Bool) (path : List Nat) :
    (parser.place kept path).Unlabelled owned := by
  induction parser generalizing kept path with
  | sequence combine first second ih₁ ih₂ => exact ⟨ih₁ h.1 .., ih₂ h.2 ..⟩
  | choice first second ih₁ ih₂ => exact ⟨ih₁ h.1 .., ih₂ h.2 ..⟩
  | many bounds body ih => exact ih h ..
  | chain join bounds operand separator ih₁ ih₂ => exact ⟨ih₁ h.1 .., ih₂ h.2 ..⟩
  | adjust adjustment body ih => exact ih h ..
  | flatMap body next ih _ => exact ⟨ih h.1 .., h.2⟩
  | select body index branches ih₁ ih₂ => exact ⟨ih₁ h.1 .., fun i => ih₂ i (h.2 i) ..⟩
  | tap id body ih => exact ih h ..
  | deferred site body ih => exact ih h ..
  | fixpoint site name body ih => exact ⟨h.1, ih h.2 ..⟩
  | _ => exact h

theorem Unlabelled.substitute (h : parser.Unlabelled owned) {meaning : Reference → Parser ε}
    (hm : ∀ target, (meaning target).Unlabelled owned) :
    (parser.substitute meaning).Unlabelled owned := by
  induction parser generalizing meaning with
  | sequence combine first second ih₁ ih₂ => exact ⟨ih₁ h.1 hm, ih₂ h.2 hm⟩
  | choice first second ih₁ ih₂ => exact ⟨ih₁ h.1 hm, ih₂ h.2 hm⟩
  | many bounds body ih => exact ih h hm
  | chain join bounds operand separator ih₁ ih₂ => exact ⟨ih₁ h.1 hm, ih₂ h.2 hm⟩
  | adjust adjustment body ih => exact ih h hm
  | flatMap body next ih₁ ih₂ => exact ⟨ih₁ h.1 hm, fun v => ih₂ v (h.2 v) hm⟩
  | select body index branches ih₁ ih₂ => exact ⟨ih₁ h.1 hm, fun i => ih₂ i (h.2 i) hm⟩
  | tap id body ih => exact ih h hm
  | deferred site body ih => exact ih h hm
  | fixpoint site name body ih =>
    refine ⟨h.1, ih h.2 fun target => ?_⟩
    split
    · trivial
    · exact hm target
  | copied site name scope ih => exact fun target => ih target (h target) hm
  | reference target => exact hm target
  | _ => exact h

theorem Unlabelled.unfold (h : parser.Unlabelled owned) {site : Site} {name : String}
    (hh : (Parser.handle site name parser).Unlabelled owned) :
    (Parser.unfold site name parser).Unlabelled owned := by
  refine h.substitute fun target => ?_
  unfold only
  split
  · exact hh
  · trivial

/-- What a session starts: a parser without labels, or one of its labelled definitions. -/
inductive Startable (owned : Parser ε → Prop) : Parser ε → Prop
  | unlabelled {parser : Parser ε} : parser.Unlabelled owned → Startable owned parser
  | labelled {site : Site} {label : Label} {body : Parser ε} : site.label = some label →
      owned (.fixpoint site label.name body) → body.Unlabelled owned →
        Startable owned (.fixpoint site label.name body)

end Parser

/-- Each handle was left by the building of a labelled definition. -/
def Store.HandlesOwned (owned : Parser ε → Prop) (store : Store) : Prop :=
  ∀ label ∈ store.handles, ∃ site body, site.label = some label ∧
    owned (.fixpoint site label.name body) ∧ store.isBuilt site.path = true

variable {owned : Parser ε → Prop} {store last : Store}

theorem Store.HandlesOwned.of_eq (h : store.HandlesOwned owned)
    (handles : last.handles = store.handles) (built : last.built = store.built) :
    last.HandlesOwned owned := by
  intro label kept
  obtain ⟨site, body, labelled, own, done⟩ := h label (handles ▸ kept)
  refine ⟨site, body, labelled, own, ?_⟩
  rw [Store.isBuilt, built]
  exact done

theorem Store.HandlesOwned.mono {more : Parser ε → Prop} (h : store.HandlesOwned owned)
    (imp : ∀ parser, owned parser → more parser) : store.HandlesOwned more := by
  intro label kept
  obtain ⟨site, body, labelled, own, done⟩ := h label kept
  exact ⟨site, body, labelled, imp _ own, done⟩

end SafeDescent
