import SafeDescent.Parser

namespace SafeDescent.Parser

variable {ε : Type} {meaning : Reference → Parser ε}

/-- Every name keeps its place, or a handle comes there. -/
def Closing (meaning : Reference → Parser ε) : Prop :=
  ∀ target, meaning target = .reference target ∨
    ∃ site name body, meaning target = .handle site name body

theorem closing_reference : Closing (Parser.reference : Reference → Parser ε) :=
  fun _ => .inl rfl

/-- A parser that has its place elsewhere, and whose names have their meaning from there. -/
inductive Sealed : Parser ε → Prop
  | handle (site : Site) (name : String) (body : Parser ε) : Sealed (.handle site name body)
  | shared (body : Parser ε) : Sealed (.shared body)

theorem Sealed.substitute {parser : Parser ε} (h : Sealed parser)
    (meaning : Reference → Parser ε) : parser.substitute meaning = parser := by
  cases h <;> rfl

theorem Sealed.place {parser : Parser ε} (h : Sealed parser) (kept : Bool) (path : List Nat) :
    parser.place kept path = parser := by
  cases h <;> rfl

/-- Every name keeps its place, or a sealed parser comes there. -/
def Sealing (meaning : Reference → Parser ε) : Prop :=
  ∀ target, meaning target = .reference target ∨ Sealed (meaning target)

theorem Closing.sealing (h : Closing meaning) : Sealing meaning := by
  intro target
  rcases h target with same | ⟨site, name, body, handle⟩
  · exact .inl same
  · exact .inr (handle ▸ .handle site name body)

theorem sealing_only {handle : Parser ε} (h : Sealed handle) (target : Reference) :
    Sealing (only target handle) := by
  intro other
  unfold only
  split
  · exact .inr h
  · exact .inl rfl

theorem Sealing.substitute {filling : Reference → Parser ε} (hf : Sealing filling)
    (hm : Sealing meaning) : Sealing fun target => (filling target).substitute meaning := by
  intro target
  rcases hf target with same | settled
  · simp only [same]
    exact hm target
  · simp only [settled.substitute]
    exact .inr settled

/-- The meaning of the names inside a recursive definition, while its own name is open. -/
def under (name : String) (meaning : Reference → Parser ε) (target : Reference) : Parser ε :=
  if target = .binder name then .reference target else meaning target

theorem Sealing.under (h : Sealing meaning) (name : String) : Sealing (under name meaning) := by
  intro target
  unfold Parser.under
  split
  · exact .inl rfl
  · exact h target

theorem substitute_fixpoint (site : Site) (name : String) (body : Parser ε) :
    (Parser.fixpoint site name body).substitute meaning =
      .fixpoint site name (body.substitute (under name meaning)) := rfl

theorem under_reference (name : String) :
    under name (Parser.reference : Reference → Parser ε) = .reference := by
  funext target
  unfold under
  split <;> rfl

theorem substitute_reference (parser : Parser ε) : parser.substitute .reference = parser := by
  induction parser with
  | primitive p => rfl
  | sequence combine first second ih₁ ih₂ => rw [substitute, ih₁, ih₂]
  | choice first second ih₁ ih₂ => rw [substitute, ih₁, ih₂]
  | many bounds body ih => rw [substitute, ih]
  | chain join bounds operand separator ih₁ ih₂ => rw [substitute, ih₁, ih₂]
  | adjust adjustment body ih => rw [substitute, ih]
  | flatMap body next ih₁ ih₂ => simp only [substitute, ih₁, ih₂]
  | select body index branches ih₁ ih₂ => simp only [substitute, ih₁, ih₂]
  | tap id body ih => rw [substitute, ih]
  | deferred site body ih => rw [substitute, ih]
  | fixpoint site name body ih => rw [substitute_fixpoint, under_reference, ih]
  | copied site name scope ih => simp only [substitute, ih]
  | reference target => rfl
  | handle site name body => rfl
  | shared body => rfl

/-- Names that were kept open can be given their meaning later. -/
theorem substitute_substitute (h : Sealing meaning) (parser : Parser ε)
    (later : Reference → Parser ε) :
    (parser.substitute meaning).substitute later =
      parser.substitute fun target => (meaning target).substitute later := by
  induction parser generalizing meaning later with
  | primitive p => rfl
  | sequence combine first second ih₁ ih₂ => simp only [substitute, ih₁ h, ih₂ h]
  | choice first second ih₁ ih₂ => simp only [substitute, ih₁ h, ih₂ h]
  | many bounds body ih => simp only [substitute, ih h]
  | chain join bounds operand separator ih₁ ih₂ => simp only [substitute, ih₁ h, ih₂ h]
  | adjust adjustment body ih => simp only [substitute, ih h]
  | flatMap body next ih₁ ih₂ => simp only [substitute, ih₁ h, ih₂ _ h]
  | select body index branches ih₁ ih₂ => simp only [substitute, ih₁ h, ih₂ _ h]
  | tap id body ih => simp only [substitute, ih h]
  | deferred site body ih => simp only [substitute, ih h]
  | fixpoint site name body ih =>
    simp only [substitute_fixpoint]
    rw [ih (h.under name)]
    congr 2
    funext target
    by_cases own : target = .binder name
    · simp [under, own, substitute]
    · rcases h target with kept | settled
      · simp [under, own, kept, substitute]
      · simp [under, own, settled.substitute]
  | copied site name scope ih => simp only [substitute, ih _ h]
  | reference target => rfl
  | handle site name body => rfl
  | shared body => rfl

/-- The meaning of the names inside a recursive definition, with a handle for its own name. -/
def extend (name : String) (handle : Parser ε) (meaning : Reference → Parser ε)
    (target : Reference) : Parser ε :=
  if target = .binder name then handle else meaning target

theorem under_eq_extend (name : String) (meaning : Reference → Parser ε) :
    under name meaning = extend name (.reference (.binder name)) meaning := by
  funext target
  unfold under extend
  split
  next own => rw [own]
  next => rfl

theorem Closing.extend (h : Closing meaning) (name : String) {handle : Parser ε}
    (hh : ∃ site name body, handle = .handle site name body) :
    Closing (extend name handle meaning) := by
  intro target
  unfold Parser.extend
  split
  · exact .inr hh
  · exact h target

/-- A recursive definition under a closing meaning unfolds to its body, closed by the meaning and
the handle. -/
theorem unfold_substitute (h : Sealing meaning) (name : String) (body handle : Parser ε) :
    (body.substitute (under name meaning)).substitute (only (.binder name) handle) =
      body.substitute (extend name handle meaning) := by
  rw [substitute_substitute (h.under name)]
  congr 1
  funext target
  by_cases own : target = .binder name
  · simp [under, own, substitute, only, extend]
  · rcases h target with kept | settled
    · simp [under, own, kept, substitute, only, extend]
    · simp [under, own, settled.substitute, extend]

/-- Names are given their meaning before or after definitions are given their sites. -/
theorem place_substitute (h : Sealing meaning) (parser : Parser ε) (kept : Bool)
    (path : List Nat) :
    (parser.substitute meaning).place kept path = (parser.place kept path).substitute meaning := by
  induction parser generalizing meaning kept path with
  | primitive p => rfl
  | sequence combine first second ih₁ ih₂ => simp only [substitute, place, ih₁ h, ih₂ h]
  | choice first second ih₁ ih₂ => simp only [substitute, place, ih₁ h, ih₂ h]
  | many bounds body ih => simp only [substitute, place, ih h]
  | chain join bounds operand separator ih₁ ih₂ => simp only [substitute, place, ih₁ h, ih₂ h]
  | adjust adjustment body ih => simp only [substitute, place, ih h]
  | flatMap body next ih₁ ih₂ => simp only [substitute, place, ih₁ h]
  | select body index branches ih₁ ih₂ => simp only [substitute, place, ih₁ h, ih₂ _ h]
  | tap id body ih => simp only [substitute, place, ih h]
  | deferred site body ih => simp only [substitute, place, ih h]
  | fixpoint site name body ih =>
    rw [substitute_fixpoint, place, ih (h.under name), place, substitute_fixpoint]
  | copied site name scope ih => rfl
  | reference target =>
    rcases h target with same | settled
    · simp only [substitute, same, place]
    · simp only [substitute, settled.place, place]
  | handle site name body => rfl
  | shared body => rfl

end SafeDescent.Parser
