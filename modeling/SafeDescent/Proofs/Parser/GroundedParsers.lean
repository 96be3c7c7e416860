import SafeDescent.Proofs.Parser.Guarded

namespace SafeDescent

open Relation

variable {ε : Type}

namespace Parser

variable {library : Library ε} {consuming : Parser ε → Prop} {parser other : Parser ε}

variable {names : Finset String} {meaning : Reference → Parser ε}

/-- The definitions in the second parser have got their sites, or they are as in the first. -/
def Sited (parser sited : Parser ε) : Prop :=
  sited = parser ∨ ∃ kept path, sited = parser.place kept path

@[simp]
theorem sited_self (parser : Parser ε) : Sited parser parser := .inl rfl

@[simp]
theorem sited_place (parser : Parser ε) (kept : Bool) (path : List Nat) :
    Sited parser (parser.place kept path) := .inr ⟨kept, path, rfl⟩

theorem sited_fixpoint {site : Site} {name : String} {body sited : Parser ε}
    (h : Sited (.fixpoint site name body) sited) :
    ∃ site' body', Sited body body' ∧ sited = .fixpoint site' name body' := by
  rcases h with rfl | ⟨kept, path, rfl⟩
  · exact ⟨site, body, sited_self body, rfl⟩
  · exact ⟨⟨path, kept, site.label⟩, body.place kept (0 :: path), sited_place .., rfl⟩

/-- A recursive definition is grounded if its body is, with the handle in the place of its name. -/
theorem Descends.grounded_fixpoint {site : Site} {name : String} {body : Parser ε}
    (closing : Closing meaning)
    (h : Descends library consuming names meaning
      ((Parser.fixpoint site name body).substitute meaning))
    (inside : ∀ meaning', Closing meaning' →
      Descends library consuming names meaning' (body.substitute meaning') →
        Grounded library consuming (body.substitute meaning')) :
    Grounded library consuming ((Parser.fixpoint site name body).substitute meaning) := by
  rw [substitute_fixpoint] at h ⊢
  refine h.of_parts fun guard other part below => ?_
  cases part with
  | unfolded =>
    have guarded := h.guarded
    have grounded := guarded.grounded_handle
    generalize hh : Parser.handle site name (body.substitute (under name meaning)) = handle
      at grounded
    have unfolds : unfold site name (body.substitute (under name meaning)) =
        body.substitute (extend name handle meaning) := by
      rw [unfold, hh, unfold_substitute closing.sealing]
    rw [unfolds] at below grounded ⊢
    refine inside _ (closing.extend name ⟨site, name, _, hh.symm⟩) ⟨below.guarded, below.copies, ?_⟩
    intro target
    by_cases own : target = .binder name
    · rw [extend, if_pos own]
      exact grounded
    · rw [extend, if_neg own]
      exact below.meanings target

/-- Inside a guarded copy its own name is not copied again before an element. -/
theorem Descends.copiesOnly_erase {site : Site} {name : String} {scope : Reference → Parser ε}
    (h : Descends library consuming names meaning (.copied site name scope))
    (exposes : Exposes library consuming (.copied site name scope) other) :
    CopiesOnly library consuming (names.erase name) other := by
  intro site' name' scope' reaches some
  refine Finset.mem_erase.mpr ⟨?_, h.copies site' name' scope' (reaches.head exposes) some⟩
  rintro rfl
  exact h.guarded _ _ .refl .copy (TransGen.head' exposes reaches)

/-- A guarded parser is grounded, if every parser with fewer names to copy is. -/
theorem Descends.grounded
    (fewer : ∀ less ⊂ names, ∀ parser : Parser ε, Guarded library consuming parser →
      CopiesOnly library consuming less parser → Grounded library consuming parser)
    {parser sited : Parser ε} (hs : Sited parser sited) (closing : Closing meaning)
    (h : Descends library consuming names meaning (sited.substitute meaning)) :
    Grounded library consuming (sited.substitute meaning) := by
  induction parser generalizing meaning sited with
  | primitive p =>
    refine h.of_parts fun guard other part below => ?_
    rcases hs with rfl | ⟨kept, path, rfl⟩ <;> cases part
  | sequence combine first second ih₁ ih₂ =>
    refine h.of_parts fun guard other part below => ?_
    rcases hs with rfl | ⟨kept, path, rfl⟩ <;> cases part with
    | first => exact ih₁ (by simp) closing below
    | second => exact ih₂ (by simp) closing below
  | choice first second ih₁ ih₂ =>
    refine h.of_parts fun guard other part below => ?_
    rcases hs with rfl | ⟨kept, path, rfl⟩ <;> cases part with
    | preferred => exact ih₁ (by simp) closing below
    | alternative => exact ih₂ (by simp) closing below
  | many bounds body ih =>
    refine h.of_parts fun guard other part below => ?_
    rcases hs with rfl | ⟨kept, path, rfl⟩ <;> cases part with
    | round => exact ih (by simp) closing below
  | chain join bounds operand separator ih₁ ih₂ =>
    refine h.of_parts fun guard other part below => ?_
    rcases hs with rfl | ⟨kept, path, rfl⟩ <;> cases part with
    | operand => exact ih₁ (by simp) closing below
    | separator => exact ih₂ (by simp) closing below
  | adjust adjustment body ih =>
    refine h.of_parts fun guard other part below => ?_
    rcases hs with rfl | ⟨kept, path, rfl⟩ <;> cases part with
    | adjusted => exact ih (by simp) closing below
  | flatMap body next ih₁ ih₂ =>
    refine h.of_parts fun guard other part below => ?_
    rcases hs with rfl | ⟨kept, path, rfl⟩ <;> cases part with
    | decider => exact ih₁ (by simp) closing below
    | continuation value root =>
      rw [place_substitute closing.sealing] at below ⊢
      exact ih₂ value (by simp) closing below
  | select body index branches ih₁ ih₂ =>
    refine h.of_parts fun guard other part below => ?_
    rcases hs with rfl | ⟨kept, path, rfl⟩ <;> cases part with
    | selector => exact ih₁ (by simp) closing below
    | branch i => exact ih₂ i (by simp) closing below
  | tap id body ih =>
    refine h.of_parts fun guard other part below => ?_
    rcases hs with rfl | ⟨kept, path, rfl⟩ <;> cases part with
    | tapped => exact ih (by simp) closing below
  | deferred site body ih =>
    refine h.of_parts fun guard other part below => ?_
    rcases hs with rfl | ⟨kept, path, rfl⟩ <;> cases part with
    | built => exact ih (by simp) closing below
  | fixpoint site name body ih =>
    obtain ⟨site', body', hb, rfl⟩ := sited_fixpoint hs
    exact h.grounded_fixpoint closing fun meaning' closing' h' => ih hb closing' h'
  | copied site name scope ih =>
    refine h.of_parts fun guard other part below => ?_
    rcases hs with rfl | ⟨kept, path, rfl⟩ <;> cases part with
    | copy hl =>
      have known : name ∈ names := h.copies _ name _ .refl (by simp [hl])
      exact fewer _ (Finset.erase_ssubset known) _ below.guarded
        (h.copiesOnly_erase (Part.copy hl).exposes)
  | reference target =>
    have same : sited.substitute meaning = meaning target := by
      rcases hs with rfl | ⟨kept, path, rfl⟩ <;> rfl
    rw [same] at h ⊢
    exact h.meanings target .refl
  | handle site name body ih =>
    refine h.of_parts fun guard other part below => ?_
    rcases hs with rfl | ⟨kept, path, rfl⟩ <;> cases part with
    | use =>
      have below := below.unmeant
      rw [← substitute_reference (Parser.fixpoint site name body)] at below ⊢
      exact below.grounded_fixpoint closing_reference fun meaning' closing' h' =>
        ih (sited_self body) closing' h'
  | shared body ih =>
    refine h.of_parts fun guard other part below => ?_
    rcases hs with rfl | ⟨kept, path, rfl⟩ <;> cases part with
    | shared =>
      have below := below.unmeant
      rw [← substitute_reference body] at below ⊢
      exact ih (sited_self body) closing_reference below

/-- In a guarded parser, with finitely many definitions in the library, no way down over exposed
parts goes on for ever. -/
theorem Guarded.grounded (finite : library.Finite) (h : Guarded library consuming parser) :
    Grounded library consuming parser := by
  obtain ⟨names, complete⟩ := finite
  have copies : CopiesOnly library consuming names parser := fun _ name _ _ => complete name
  clear complete
  induction names using Finset.strongInduction generalizing parser with
  | H names fewer =>
    have descends : Descends library consuming names .reference parser :=
      ⟨h, copies, fun target _ => grounded_reference target⟩
    rw [← substitute_reference parser] at descends ⊢
    exact descends.grounded (fun less hl p hp => fewer less hl hp) (sited_self parser)
      closing_reference

end Parser

end SafeDescent
