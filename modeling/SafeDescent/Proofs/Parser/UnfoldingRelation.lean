import SafeDescent.Proofs.Parser.Substitution

namespace SafeDescent.Parser

variable {ε : Type}

/-- Where the first meaning puts a sealed parser, the second one puts the same. -/
def Refines (meaning finer : Reference → Parser ε) : Prop :=
  ∀ target, Sealed (meaning target) → finer target = meaning target

/-- The second parser comes from the first one by unfolding recursive definitions, at any places and
at any depth. A use of a definition that is kept gives way to the definition itself, and a
definition gives way to its body. The meaning says which handles stand in the places of the open
names when the first parser runs: inside a definition its name means its handle, and hides that name
from outside.

The paths of definitions do not count. The definitions that a function makes get their sites when
they are made, so they are compared with their sites. The scope of a copy comes to stand inside the
definitions of the copied parser, so it is compared under every finer meaning. -/
inductive Unfolds : (Reference → Parser ε) → Parser ε → Parser ε → Prop
  | primitive {meaning : Reference → Parser ε} (p : Primitive ε) :
      Unfolds meaning (.primitive p) (.primitive p)
  | sequence {meaning : Reference → Parser ε} {combine : Value → Value → Value}
      {first first' second second' : Parser ε} :
      Unfolds meaning first first' → Unfolds meaning second second' →
        Unfolds meaning (.sequence combine first second) (.sequence combine first' second')
  | choice {meaning : Reference → Parser ε} {first first' second second' : Parser ε} :
      Unfolds meaning first first' → Unfolds meaning second second' →
        Unfolds meaning (.choice first second) (.choice first' second')
  | many {meaning : Reference → Parser ε} {bounds : Bounds} {body body' : Parser ε} :
      Unfolds meaning body body' → Unfolds meaning (.many bounds body) (.many bounds body')
  | chain {meaning : Reference → Parser ε} {join : Value → Value → Value → Value} {bounds : Bounds}
      {operand operand' separator separator' : Parser ε} :
      Unfolds meaning operand operand' → Unfolds meaning separator separator' →
        Unfolds meaning (.chain join bounds operand separator)
          (.chain join bounds operand' separator')
  | adjust {meaning : Reference → Parser ε} {adjustment : Adjustment} {body body' : Parser ε} :
      Unfolds meaning body body' →
        Unfolds meaning (.adjust adjustment body) (.adjust adjustment body')
  | flatMap {meaning : Reference → Parser ε} {body body' : Parser ε}
      {next next' : Value → Parser ε} : Unfolds meaning body body' →
      (∀ v path path', Unfolds meaning ((next v).place false path) ((next' v).place false path')) →
        Unfolds meaning (.flatMap body next) (.flatMap body' next')
  | select {meaning : Reference → Parser ε} {body body' : Parser ε} {index : Value → Nat}
      {branches branches' : Nat → Parser ε} : Unfolds meaning body body' →
      (∀ i, Unfolds meaning (branches i) (branches' i)) →
        Unfolds meaning (.select body index branches) (.select body' index branches')
  | tap {meaning : Reference → Parser ε} {id : String} {body body' : Parser ε} :
      Unfolds meaning body body' → Unfolds meaning (.tap id body) (.tap id body')
  | deferred {meaning : Reference → Parser ε} {site site' : Site} {body body' : Parser ε} :
      Unfolds meaning body body' → Unfolds meaning (.deferred site body) (.deferred site' body')
  | fixpoint {meaning : Reference → Parser ε} {site site' : Site} {name : String}
      {body body' : Parser ε} : site.kept = site'.kept →
      Unfolds (extend name (.handle site name (body.substitute (under name meaning))) meaning)
        body body' →
        Unfolds meaning (.fixpoint site name body) (.fixpoint site' name body')
  | copied {meaning : Reference → Parser ε} {site site' : Site} {name : String}
      {scope scope' : Reference → Parser ε} : site.kept = site'.kept →
      (∀ target finer, Refines meaning finer → Unfolds finer (scope target) (scope' target)) →
      (∀ target finer kept path path', Refines meaning finer →
        Unfolds finer ((scope target).place kept path) ((scope' target).place kept path')) →
        Unfolds meaning (.copied site name scope) (.copied site' name scope')
  | reference {meaning : Reference → Parser ε} (target : Reference) :
      Unfolds meaning (.reference target) (.reference target)
  | handle {meaning : Reference → Parser ε} {site site' : Site} {name : String}
      {body body' : Parser ε} : site.kept = site'.kept →
      Unfolds (only (.binder name) (.handle site name body)) body body' →
        Unfolds meaning (.handle site name body) (.handle site' name body')
  | shared {meaning : Reference → Parser ε} {body body' : Parser ε} :
      Unfolds .reference body body' → Unfolds meaning (.shared body) (.shared body')
  /-- A name gives way to the definition that it stands for. -/
  | named {meaning : Reference → Parser ε} {target : Reference} {site : Site} {name : String}
      {body definition : Parser ε} : meaning target = .handle site name body →
      site.kept = true → Unfolds .reference (.fixpoint site name body) definition →
        Unfolds meaning (.reference target) (.shared definition)
  /-- A handle gives way to the definition that it leads to. -/
  | held {meaning : Reference → Parser ε} {site : Site} {name : String}
      {body definition : Parser ε} : site.kept = true →
      Unfolds .reference (.fixpoint site name body) definition →
        Unfolds meaning (.handle site name body) (.shared definition)
  /-- A definition gives way to its body, with its handle in the place of its name. -/
  | opened {meaning : Reference → Parser ε} {site : Site} {name : String}
      {body parser : Parser ε} :
      Unfolds meaning (body.substitute
        (only (.binder name) (.handle site name (body.substitute (under name meaning))))) parser →
        Unfolds meaning (.fixpoint site name body) parser

variable {meaning later : Reference → Parser ε} {parser parser' : Parser ε}

/-- The second parser comes from the first one by unfolding, whatever the names mean, and so it does
once the two have their places. -/
def Follows (parser parser' : Parser ε) : Prop :=
  ∀ meaning, Unfolds meaning parser parser' ∧
    ∀ kept path path', Unfolds meaning (parser.place kept path) (parser'.place kept path')

theorem follows_reference (target : Reference) :
    Follows (.reference target : Parser ε) (.reference target) :=
  fun _ => ⟨.reference target, fun _ _ _ => .reference target⟩

theorem Unfolds.follows_handle {site : Site} {name : String} {body body' : Parser ε}
    (h : Unfolds (only (.binder name) (.handle site name body)) body body') :
    Follows (.handle site name body) (.handle site name body') :=
  fun _ => ⟨.handle rfl h, fun _ _ _ => .handle rfl h⟩

theorem Unfolds.follows_shared {body body' : Parser ε} (h : Unfolds .reference body body') :
    Follows (.shared body) (.shared body') :=
  fun _ => ⟨.shared h, fun _ _ _ => .shared h⟩

theorem follows_under {filling filling' : Reference → Parser ε}
    (filled : ∀ target, Follows (filling target) (filling' target)) (name : String)
    (target : Reference) : Follows (under name filling target) (under name filling' target) := by
  unfold under
  split
  · exact follows_reference target
  · exact filled target

/-- A parser follows itself, and with the names filled it still does. -/
theorem follows_substitute (parser : Parser ε) {filling filling' : Reference → Parser ε}
    (filled : ∀ target, Follows (filling target) (filling' target)) :
    Follows (parser.substitute filling) (parser.substitute filling') := by
  induction parser generalizing filling filling' with
  | primitive p => exact fun m => ⟨.primitive p, fun _ _ _ => .primitive p⟩
  | sequence combine first second ih₁ ih₂ =>
    intro m
    have h₁ := ih₁ filled m
    have h₂ := ih₂ filled m
    exact ⟨.sequence h₁.1 h₂.1, fun _ _ _ => .sequence (h₁.2 ..) (h₂.2 ..)⟩
  | choice first second ih₁ ih₂ =>
    intro m
    have h₁ := ih₁ filled m
    have h₂ := ih₂ filled m
    exact ⟨.choice h₁.1 h₂.1, fun _ _ _ => .choice (h₁.2 ..) (h₂.2 ..)⟩
  | many bounds body ih =>
    intro m
    have h := ih filled m
    exact ⟨.many h.1, fun _ _ _ => .many (h.2 ..)⟩
  | chain join bounds operand separator ih₁ ih₂ =>
    intro m
    have h₁ := ih₁ filled m
    have h₂ := ih₂ filled m
    exact ⟨.chain h₁.1 h₂.1, fun _ _ _ => .chain (h₁.2 ..) (h₂.2 ..)⟩
  | adjust adjustment body ih =>
    intro m
    have h := ih filled m
    exact ⟨.adjust h.1, fun _ _ _ => .adjust (h.2 ..)⟩
  | flatMap body next ih₁ ih₂ =>
    intro m
    have h := ih₁ filled m
    have made (v : Value) := (ih₂ v filled m).2 false
    exact ⟨.flatMap h.1 made, fun _ _ _ => .flatMap (h.2 ..) made⟩
  | select body index branches ih₁ ih₂ =>
    intro m
    have h := ih₁ filled m
    have hb (i : Nat) := ih₂ i filled m
    exact ⟨.select h.1 fun i => (hb i).1, fun _ _ _ => .select (h.2 ..) fun i => (hb i).2 ..⟩
  | tap id body ih =>
    intro m
    have h := ih filled m
    exact ⟨.tap h.1, fun _ _ _ => .tap (h.2 ..)⟩
  | deferred site body ih =>
    intro m
    have h := ih filled m
    exact ⟨.deferred h.1, fun _ _ _ => .deferred (h.2 ..)⟩
  | fixpoint site name body ih =>
    have h := ih (follows_under filled name)
    exact fun m => ⟨.fixpoint rfl (h _).1, fun _ _ _ => .fixpoint rfl ((h _).2 ..)⟩
  | copied site name scope ih =>
    have copies (m : Reference → Parser ε) (site site' : Site) (kept : site.kept = site'.kept) :
        Unfolds m (.copied site name fun target => (scope target).substitute filling)
          (.copied site' name fun target => (scope target).substitute filling') :=
      .copied kept (fun target finer _ => (ih target filled finer).1)
        fun target finer _ _ _ _ => (ih target filled finer).2 ..
    exact fun m => ⟨copies m site site rfl, fun _ _ _ => copies m _ _ rfl⟩
  | reference target => exact filled target
  | handle site name body ih =>
    have h := (ih follows_reference (only (.binder name) (.handle site name body))).1
    rw [substitute_reference] at h
    exact h.follows_handle
  | shared body ih =>
    have h := (ih follows_reference .reference).1
    rw [substitute_reference] at h
    exact h.follows_shared

theorem follows_self (parser : Parser ε) : Follows parser parser := by
  have h := follows_substitute parser follows_reference
  rwa [substitute_reference] at h

theorem unfolds_self (meaning : Reference → Parser ε) (parser : Parser ε) :
    Unfolds meaning parser parser :=
  (follows_self parser meaning).1

/-- What comes from a sealed parser by unfolding does not depend on what names mean, and what comes
from a name depends only on what that name means. -/
theorem Unfolds.elsewhere {finer : Reference → Parser ε} {target : Reference}
    (h : Unfolds meaning parser parser')
    (hp : parser = .reference target ∨ Sealed parser)
    (same : Sealed (meaning target) → finer target = meaning target) :
    Unfolds finer parser parser' := by
  rcases hp with rfl | ⟨site, name, body⟩ | ⟨body⟩
  · cases h with
    | reference => exact .reference target
    | named hm kept opens =>
      have settled := same (hm ▸ .handle ..)
      exact .named (settled.trans hm) kept opens
  · cases h with
    | handle kept hb => exact .handle kept hb
    | held kept opens => exact .held kept opens
  · cases h with
    | shared hb => exact .shared hb

theorem Sealing.unfolds {filling filling' : Reference → Parser ε} (h : Sealing filling)
    (hu : ∀ target, Unfolds meaning (filling target) (filling' target)) : Sealing filling' := by
  intro target
  have unfolds := hu target
  rcases h target with same | settled
  · rw [same] at unfolds
    generalize filling' target = parser at unfolds ⊢
    cases unfolds with
    | reference => exact .inl rfl
    | named => exact .inr (.shared _)
  · generalize filling' target = parser at unfolds ⊢
    generalize filling target = other at unfolds settled
    cases settled with
    | handle =>
      cases unfolds with
      | handle => exact .inr (.handle ..)
      | held => exact .inr (.shared _)
    | shared =>
      cases unfolds with
      | shared => exact .inr (.shared _)

end SafeDescent.Parser
