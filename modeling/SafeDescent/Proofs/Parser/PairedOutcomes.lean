import SafeDescent.Proofs.Parser.Outcome

namespace SafeDescent

variable {ρ ρ' ε : Type}

/-- Outcomes of one kind that stopped at paired positions. They have the same value, or paired
messages. -/
inductive Outcome.Paired {α : Type} (messages : String → String → Prop)
    (positions : ρ → ρ' → Prop) : Outcome ρ α → Outcome ρ' α → Prop
  | success (value : α) {r : ρ} {r' : ρ'} : positions r r' →
      Outcome.Paired messages positions (.success value r) (.success value r')
  | failure {message message' : String} {r : ρ} {r' : ρ'} :
      messages message message' → positions r r' →
        Outcome.Paired messages positions (.failure message r) (.failure message' r')
  | error {message message' : String} {r : ρ} {r' : ρ'} :
      messages message message' → positions r r' →
        Outcome.Paired messages positions (.error message r) (.error message' r')

theorem Outcome.paired_eq_iff {α : Type} {outcome outcome' : Outcome ρ α} :
    Outcome.Paired Eq Eq outcome outcome' ↔ outcome = outcome' := by
  constructor
  · intro h
    cases h with
    | success value hr => rw [hr]
    | failure hm hr => rw [hm, hr]
    | error hm hr => rw [hm, hr]
  · rintro rfl
    cases outcome with
    | success value r => exact .success value rfl
    | failure message r => exact .failure rfl rfl
    | error message r => exact .error rfl rfl

/-- A relation between the positions of two readers under which the two see the same elements, and
find the same one of two positions further on. -/
structure Reader.Corresponds [Reader ρ ε] [Reader ρ' ε] (R : ρ → ρ' → Prop) : Prop where
  first {r : ρ} {r' : ρ'} : R r r' → Reader.first r = Reader.first r'
  rest {r : ρ} {r' : ρ'} : R r r' → (Reader.first r).isSome → R (Reader.rest r) (Reader.rest r')
  offset_lt {a b : ρ} {a' b' : ρ'} : R a a' → R b b' →
    (Reader.offset a < Reader.offset b ↔ Reader.offset a' < Reader.offset b')

/-- Only a span shows offsets. Where the two readers count differently, no span is taken. -/
def SpansAgree [Reader ρ ε] [Reader ρ' ε] (adjustments : Adjustment → Prop) (R : ρ → ρ' → Prop) :
    Prop :=
  adjustments .spanned → ∀ r r', R r r' → Reader.offset r = Reader.offset r'

variable [Reader ρ ε] [Reader ρ' ε] {R : ρ → ρ' → Prop} {messages : String → String → Prop}

namespace Reader

namespace Corresponds

theorem offset_eq (h : Reader.Corresponds R) {a b : ρ} {a' b' : ρ'} (ha : R a a') (hb : R b b') :
    Reader.offset a = Reader.offset b ↔ Reader.offset a' = Reader.offset b' := by
  have lt := h.offset_lt ha hb
  have gt := h.offset_lt hb ha
  omega

theorem atEnd (h : Reader.Corresponds R) {r : ρ} {r' : ρ'} (hr : R r r') :
    Reader.atEnd r = Reader.atEnd r' := by
  unfold Reader.atEnd
  rw [h.first hr]

/-- Either both inputs end or both readers hand out the same element and stay related. -/
theorem read_cases (h : Reader.Corresponds R) {r : ρ} {r' : ρ'} (hr : R r r') :
    (Reader.read r = none ∧ Reader.read r' = none) ∨
      ∃ x next next', Reader.read r = some (x, next) ∧ Reader.read r' = some (x, next') ∧
        R next next' := by
  have same := h.first hr
  unfold Reader.read
  cases hx : Reader.first r with
  | none =>
    rw [← same, hx]
    exact .inl ⟨rfl, rfl⟩
  | some x =>
    rw [← same, hx]
    exact .inr ⟨x, _, _, rfl, rfl, h.rest hr (by simp [hx])⟩

end Corresponds

omit [Reader ρ' ε] in
theorem corresponds_eq : Reader.Corresponds (Eq : ρ → ρ → Prop) where
  first := by
    rintro r _ rfl
    rfl
  rest := by
    rintro r _ rfl _
    rfl
  offset_lt := by
    rintro a b _ _ rfl rfl
    exact .rfl

end Reader

omit [Reader ρ' ε] in
theorem spansAgree_eq : SpansAgree (fun _ => True) (Eq : ρ → ρ → Prop) := by
  rintro - r _ rfl
  rfl

namespace Outcome.Paired

omit [Reader ρ ε] [Reader ρ' ε] in
theorem map {α β : Type} {outcome : Outcome ρ α} {outcome' : Outcome ρ' α}
    (h : Outcome.Paired messages R outcome outcome') (f : α → β) :
    Outcome.Paired messages R (outcome.map f) (outcome'.map f) := by
  cases h with
  | success value hr => exact .success (f value) hr
  | failure hm hr => exact .failure hm hr
  | error hm hr => exact .error hm hr

/-- Which of two outcomes got further is decided by their positions. -/
theorem furthest {α : Type} (h : Reader.Corresponds R) {message message' : String} {stopped : ρ}
    {stopped' : ρ'} {outcome : Outcome ρ α} {outcome' : Outcome ρ' α}
    (hm : messages message message') (hs : R stopped stopped')
    (ho : Outcome.Paired messages R outcome outcome') :
    Outcome.Paired messages R (outcome.furthest message stopped)
      (outcome'.furthest message' stopped') := by
  cases ho with
  | success value hr => exact .success value hr
  | @failure other other' r r' hother hr =>
    rw [Outcome.furthest_failure, Outcome.furthest_failure]
    by_cases lt : Reader.offset stopped < Reader.offset r
    · rw [if_pos lt, if_pos ((h.offset_lt hs hr).mp lt)]
      exact .failure hother hr
    · rw [if_neg lt, if_neg (mt (h.offset_lt hs hr).mpr lt)]
      exact .failure hm hs
  | @error other other' r r' hother hr =>
    rw [Outcome.furthest_error, Outcome.furthest_error]
    by_cases lt : Reader.offset stopped < Reader.offset r
    · rw [if_pos lt, if_pos ((h.offset_lt hs hr).mp lt)]
      exact .error hother hr
    · rw [if_neg lt, if_neg (mt (h.offset_lt hs hr).mpr lt)]
      exact .failure hm hs

variable [Element ε]

theorem requireEnd {α : Type} (h : Reader.Corresponds R) (same : ∀ message, messages message message)
    {outcome : Outcome ρ α} {outcome' : Outcome ρ' α}
    (ho : Outcome.Paired messages R outcome outcome') :
    Outcome.Paired messages R outcome.requireEnd outcome'.requireEnd := by
  cases ho with
  | success value hr =>
    simp only [Outcome.requireEnd, Outcome.mismatch, h.atEnd hr, h.first hr]
    split
    · exact .success value hr
    · exact .failure (same _) hr
  | failure hm hr => exact .failure hm hr
  | error hm hr => exact .error hm hr

theorem finish (h : Reader.Corresponds R) (same : ∀ message, messages message message)
    {outcome : Outcome ρ Value} {outcome' : Outcome ρ' Value}
    (ho : Outcome.Paired messages R outcome outcome') (extent : Extent) :
    Outcome.Paired messages R (extent.finish outcome) (extent.finish outcome') := by
  cases extent with
  | part => exact ho
  | whole => exact ho.requireEnd h same

theorem adjust {adjustments : Adjustment → Prop} (h : Reader.Corresponds R)
    (same : ∀ message, messages message message) (spans : SpansAgree adjustments R)
    {adjustment : Adjustment} (ha : adjustments adjustment) {start : ρ} {start' : ρ'}
    {outcome : Outcome ρ Value} {outcome' : Outcome ρ' Value} (hs : R start start')
    (ho : Outcome.Paired messages R outcome outcome') :
    Outcome.Paired messages R (adjustment.apply start outcome)
      (adjustment.apply start' outcome') := by
  cases adjustment with
  | map f => exact ho.map f
  | phrase => exact ho.requireEnd h same
  | optional =>
    cases ho with
    | success value hr => exact .success _ hr
    | failure hm hr => exact .success _ hs
    | error hm hr => exact .error hm hr
  | negate =>
    cases ho with
    | success value hr => exact .failure (same _) hs
    | failure hm hr => exact .success _ hs
    | error hm hr => exact .success _ hs
  | guard =>
    cases ho with
    | success value hr => exact .success _ hs
    | failure hm hr => exact .failure hm hs
    | error hm hr => exact .error hm hs
  | commit =>
    cases ho with
    | success value hr => exact .success _ hr
    | failure hm hr => exact .error hm hr
    | error hm hr => exact .error hm hr
  | failureMessage message =>
    cases ho with
    | success value hr => exact .success _ hr
    | failure hm hr => exact .failure (same _) hr
    | error hm hr => exact .error hm hr
  | errorMessage message =>
    cases ho with
    | success value hr => exact .success _ hr
    | failure hm hr => exact .failure hm hr
    | error hm hr => exact .error (same _) hr
  | spanned =>
    cases ho with
    | success value hr =>
      simp only [Adjustment.apply, spans ha _ _ hs, spans ha _ _ hr]
      exact .success _ hr
    | failure hm hr => exact .failure hm hr
    | error hm hr => exact .error hm hr

end Outcome.Paired

end SafeDescent
