import SafeDescent.Proofs.Parser.UnfoldingRelation

namespace SafeDescent.Parser

variable {ε : Type} {meaning later : Reference → Parser ε} {parser parser' : Parser ε}

section Substitution

variable {filling filling' : Reference → Parser ε}

/-- The meaning of the names after they have been filled agrees with a meaning from before. -/
def Leaves (filling later meaning : Reference → Parser ε) : Prop :=
  ∀ target, (filling target).substitute later = meaning target

theorem Leaves.cases (leaves : Leaves filling later meaning) (h : Sealing filling)
    (target : Reference) :
    (filling target = .reference target ∧ later target = meaning target) ∨
      (Sealed (filling target) ∧ filling target = meaning target) := by
  have left := leaves target
  rcases h target with same | settled
  · rw [same] at left
    exact .inl ⟨same, left⟩
  · rw [settled.substitute] at left
    exact .inr ⟨settled, left⟩

theorem Leaves.under (leaves : Leaves filling later meaning) (h : Sealing filling) (name : String)
    (handle : Parser ε) :
    Leaves (under name filling) (extend name handle later) (extend name handle meaning) := by
  intro target
  by_cases own : target = .binder name
  · simp [Parser.under, extend, own, Parser.substitute]
  · have inside : Parser.under name filling target = filling target := if_neg own
    rcases leaves.cases h target with ⟨same, left⟩ | ⟨settled, left⟩
    · simp [Parser.under, extend, own, same, Parser.substitute, left]
    · rw [inside, settled.substitute, left]
      exact (if_neg own).symm

theorem Leaves.substitute_under (leaves : Leaves filling later meaning) (h : Sealing filling)
    (name : String) (body : Parser ε) :
    (body.substitute (Parser.under name filling)).substitute (Parser.under name later) =
      body.substitute (Parser.under name meaning) := by
  have inside := leaves.under h name (.reference (.binder name))
  rw [substitute_substitute (h.under name), under_eq_extend name later,
    under_eq_extend name meaning]
  congr 1
  exact funext inside

/-- What the names mean may be finer where a copy comes to be. -/
theorem Leaves.refines (leaves : Leaves filling later meaning) (h : Sealing filling)
    {finer : Reference → Parser ε} (refines : Refines later finer) :
    Refines meaning fun target => (filling target).substitute finer := by
  intro target settled
  show (filling target).substitute finer = meaning target
  rcases leaves.cases h target with ⟨same, left⟩ | ⟨closed, left⟩
  · rw [← left] at settled ⊢
    rw [same]
    exact refines target settled
  · rw [closed.substitute, left]

/-- Names may be filled on both sides, with handles that lead to what the names mean. -/
theorem Unfolds.substitute (h : Unfolds meaning parser parser') (sealing : Sealing filling)
    (leaves : Leaves filling later meaning)
    (hu : ∀ target, Unfolds later (filling target) (filling' target)) :
    Unfolds later (parser.substitute filling) (parser'.substitute filling') := by
  induction h generalizing filling filling' later with
  | primitive p => exact .primitive p
  | sequence _ _ ih₁ ih₂ => exact .sequence (ih₁ sealing leaves hu) (ih₂ sealing leaves hu)
  | choice _ _ ih₁ ih₂ => exact .choice (ih₁ sealing leaves hu) (ih₂ sealing leaves hu)
  | many _ ih => exact .many (ih sealing leaves hu)
  | chain _ _ ih₁ ih₂ => exact .chain (ih₁ sealing leaves hu) (ih₂ sealing leaves hu)
  | adjust _ ih => exact .adjust (ih sealing leaves hu)
  | flatMap _ _ ih₁ ih₂ =>
    refine .flatMap (ih₁ sealing leaves hu) fun v path path' => ?_
    rw [place_substitute sealing, place_substitute (sealing.unfolds hu)]
    exact ih₂ v path path' sealing leaves hu
  | select _ _ ih₁ ih₂ => exact .select (ih₁ sealing leaves hu) fun i => ih₂ i sealing leaves hu
  | tap _ ih => exact .tap (ih sealing leaves hu)
  | deferred _ ih => exact .deferred (ih sealing leaves hu)
  | @fixpoint meaning site site' name body body' kept _ ih =>
    rw [substitute_fixpoint, substitute_fixpoint]
    refine .fixpoint kept ?_
    rw [leaves.substitute_under sealing]
    refine ih (sealing.under name) (leaves.under sealing name _) fun target => ?_
    unfold under
    split
    · exact .reference target
    next other => exact (hu target).elsewhere (sealing target) fun _ => if_neg other
  | @copied meaning site site' name scope scope' kept _ _ ih ih' =>
    have filled {finer : Reference → Parser ε} (refines : Refines later finer)
        (target : Reference) : Unfolds finer (filling target) (filling' target) :=
      (hu target).elsewhere (sealing target) (refines target)
    refine .copied kept (fun target finer refines => ?_)
      fun target finer kept path path' refines => ?_
    · exact ih target _ (leaves.refines sealing refines) sealing (fun _ => rfl) (filled refines)
    · rw [place_substitute sealing, place_substitute (sealing.unfolds hu)]
      exact ih' target _ kept path path' (leaves.refines sealing refines) sealing (fun _ => rfl)
        (filled refines)
  | reference target => exact hu target
  | handle kept hb _ => exact .handle kept hb
  | shared hb _ => exact .shared hb
  | @named meaning target site name body definition hm kept opens _ =>
    show Unfolds later (filling target) (.shared definition)
    rcases leaves.cases sealing target with ⟨same, left⟩ | ⟨-, left⟩
    · rw [same]
      exact .named (left.trans hm) kept opens
    · rw [left, hm]
      exact .held kept opens
  | held kept opens _ => exact .held kept opens
  | @opened meaning site name body parser _ ih =>
    let handle : Parser ε := .handle site name (body.substitute (Parser.under name meaning))
    have filled : (fun target => (only (.binder name) handle target).substitute filling) =
        extend name handle filling := by
      funext target
      by_cases own : target = .binder name
      · simp [handle, extend, only, own, Parser.substitute]
      · simp [extend, only, own, Parser.substitute]
    have opens := ih sealing leaves hu
    rw [substitute_substitute (sealing_only (.handle ..) _), filled] at opens
    rw [substitute_fixpoint]
    refine .opened ?_
    rw [leaves.substitute_under sealing, unfold_substitute sealing]
    exact opens

end Substitution

theorem refines_reference (meaning : Reference → Parser ε) : Refines .reference meaning := by
  intro target settled
  cases settled

/-- The bodies of two definitions unfold one another with the handles in the place of the name. -/
theorem Unfolds.unfold {site site' : Site} {name : String} {body body' : Parser ε}
    (kept : site.kept = site'.kept)
    (h : Unfolds (only (.binder name) (.handle site name body)) body body') :
    Unfolds .reference (Parser.unfold site name body) (Parser.unfold site' name body') := by
  have sealing : Sealing (only (.binder name) (Parser.handle site name body)) :=
    sealing_only (.handle ..) _
  refine h.substitute sealing (fun _ => substitute_reference _) fun target => ?_
  unfold only
  split
  · exact .handle kept h
  · exact .reference target

/-- A definition whose open names have no meaning around it unfolds another one if their bodies
do. -/
theorem Unfolds.closed_fixpoint {site site' : Site} {name : String} {body body' : Parser ε}
    (kept : site.kept = site'.kept)
    (h : Unfolds (only (.binder name) (.handle site name body)) body body') :
    Unfolds .reference (.fixpoint site name body) (.fixpoint site' name body') := by
  refine .fixpoint kept ?_
  rw [under_reference, substitute_reference]
  exact h

/-- In the place of a name, the handle of a definition that is kept gives way to the definition. -/
theorem follows_only {site : Site} (kept : site.kept = true) (name : String) (body : Parser ε)
    (target other : Reference) :
    Follows (only target (.handle site name body) other)
      (only target (.shared (.fixpoint site name body)) other) := by
  have opens : Unfolds .reference (.fixpoint site name body) (.fixpoint site name body) :=
    unfolds_self ..
  unfold only
  split
  · exact fun m => ⟨.held kept opens, fun _ _ _ => .held kept opens⟩
  · exact follows_reference other

/-- A definition that is kept unfolds to its body, with the definition itself in the place of its
name. -/
theorem unfolds_opened {site : Site} (kept : site.kept = true) (name : String) (body : Parser ε) :
    Unfolds .reference (.fixpoint site name body)
      (body.substitute (only (.binder name) (.shared (.fixpoint site name body)))) := by
  have filled := follows_substitute body (follows_only kept name body (.binder name))
  refine .opened ?_
  rw [under_reference, substitute_reference]
  exact (filled .reference).1

end SafeDescent.Parser
