import Mathlib.Data.List.Infix

namespace SafeDescent

variable {α : Type} {common common' xs ys zs : List α} {x : α}

/-- The longest beginning that two lists share. -/
structure LongestCommonPrefix (common xs ys : List α) : Prop where
  left : common <+: xs
  right : common <+: ys
  longest : ∀ other, other <+: xs → other <+: ys → other <+: common

theorem LongestCommonPrefix.unique (h : LongestCommonPrefix common xs ys)
    (h' : LongestCommonPrefix common' xs ys) : common = common' :=
  (h'.longest _ h.left h.right).eq_of_length_le (h.longest _ h'.left h'.right).length_le

/-- The first list begins like the second one, and goes on with an element that the second one does
not have there. -/
structure Parts (xs ys common : List α) (x : α) : Prop where
  left : common ++ [x] <+: xs
  right : common <+: ys
  differs : ys[common.length]? ≠ some x

theorem begins_or_parts (xs ys : List α) : xs <+: ys ∨ ∃ common x, Parts xs ys common x := by
  induction xs generalizing ys with
  | nil => exact .inl List.nil_prefix
  | cons x xs ih =>
    cases ys with
    | nil => exact .inr ⟨[], x, by simp, List.nil_prefix, by simp⟩
    | cons y ys =>
      by_cases same : y = x
      · subst same
        rcases ih ys with begins | ⟨common, x, h⟩
        · exact .inl ((List.prefix_cons_inj y).mpr begins)
        · refine .inr ⟨y :: common, x, ?_, ?_, ?_⟩
          · exact (List.prefix_cons_inj y).mpr h.left
          · exact (List.prefix_cons_inj y).mpr h.right
          · simpa using h.differs
      · exact .inr ⟨[], x, by simp, List.nil_prefix, by simpa using same⟩

theorem Parts.getElem?_eq (h : Parts xs ys common x) : xs[common.length]? = some x := by
  obtain ⟨more, rfl⟩ := h.left
  simp

theorem Parts.longestCommonPrefix (h : Parts xs ys common x) : LongestCommonPrefix common xs ys := by
  have begins : common <+: xs := (List.prefix_append common [x]).trans h.left
  refine ⟨begins, h.right, fun other left right => ?_⟩
  by_contra longer
  have length : common.length < other.length := by
    by_contra short
    exact longer (List.prefix_of_prefix_length_le left begins (Nat.le_of_not_lt short))
  have further : common ++ [x] <+: other :=
    List.prefix_of_prefix_length_le h.left left (by
      rw [List.length_append]
      exact length)
  obtain ⟨more, rfl⟩ := further.trans right
  exact h.differs (by simp)

theorem Parts.not_begins (h : Parts xs ys common x) : ¬ xs <+: ys := by
  intro begins
  obtain ⟨more, rfl⟩ := h.left.trans begins
  exact h.differs (by simp)

theorem Parts.append_right (h : Parts xs ys common x) (more : List α) :
    Parts (xs ++ more) ys common x :=
  ⟨h.left.trans (List.prefix_append xs more), h.right, h.differs⟩

theorem Parts.append_left (h : Parts xs ys common x) (zs : List α) :
    Parts (zs ++ xs) (zs ++ ys) (zs ++ common) x where
  left := by
    rw [List.append_assoc]
    exact (List.prefix_append_right_inj zs).mpr h.left
  right := (List.prefix_append_right_inj zs).mpr h.right
  differs := by
    rw [List.length_append, List.getElem?_append_right (Nat.le_add_right _ _),
      Nat.add_sub_cancel_left]
    exact h.differs

end SafeDescent
