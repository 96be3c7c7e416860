import SafeDescent.Proofs.Reader.Reading
import SafeDescent.Proofs.Value.Characters
import SafeDescent.Value.Function

namespace SafeDescent

open List (replicate)

section

variable {α : Type} {c : α}

/-- A list is a run of one element and a rest that does not go on with it. -/
theorem exists_replicate_append [DecidableEq α] (c : α) (xs : List α) :
    ∃ n rest, xs = replicate n c ++ rest ∧ rest.head? ≠ some c := by
  induction xs with
  | nil => exact ⟨0, [], rfl, by simp⟩
  | cons x xs ih =>
    by_cases same : x = c
    · subst same
      obtain ⟨n, rest, rfl, stops⟩ := ih
      exact ⟨n + 1, rest, rfl, stops⟩
    · exact ⟨0, x :: xs, rfl, by simpa using same⟩

theorem replicate_append_inj {m n : Nat} {xs ys : List α}
    (h : replicate m c ++ xs = replicate n c ++ ys) (stops : xs.head? ≠ some c)
    (stops' : ys.head? ≠ some c) : m = n ∧ xs = ys := by
  induction m generalizing n with
  | zero =>
    cases n with
    | zero => exact ⟨rfl, h⟩
    | succ n =>
      have longer : xs = c :: (replicate n c ++ ys) := h
      exact absurd (by rw [longer, List.head?_cons]) stops
  | succ m ih =>
    cases n with
    | zero =>
      have longer : c :: (replicate m c ++ xs) = ys := h
      exact absurd (by rw [← longer, List.head?_cons]) stops'
    | succ n =>
      have shorter : replicate m c ++ xs = replicate n c ++ ys := (List.cons.inj h).2
      obtain ⟨rfl, rest⟩ := ih shorter
      exact ⟨rfl, rest⟩

end

/-- A text as the opening brackets that it begins with, the closing ones directly after them, and the
rest. -/
structure Bracketed (text : List Char) (opened closed : Nat) (rest : List Char) : Prop where
  text_eq : text = replicate opened '(' ++ (replicate closed ')' ++ rest)
  opened_all : (replicate closed ')' ++ rest).head? ≠ some '('
  closed_all : rest.head? ≠ some ')'

/-- Brackets that are opened and closed again, one inside the other. -/
def nestedText (depth : Nat) : String :=
  String.ofList (replicate depth '(' ++ replicate depth ')')

/-- How deep brackets are nested where some are opened and some closed. All of them or none count. -/
def nestedDepth (opened closed : Nat) : Nat := if opened ≤ closed then opened else 0

theorem toList_nestedText (depth : Nat) :
    (nestedText depth).toList = replicate depth '(' ++ replicate depth ')' := String.toList_ofList

theorem utf8ByteSize_nestedText (depth : Nat) : (nestedText depth).utf8ByteSize = 2 * depth := by
  have opening : utf8Length (replicate depth '(') = depth * 1 := utf8Length_replicate depth '('
  have closing : utf8Length (replicate depth ')') = depth * 1 := utf8Length_replicate depth ')'
  rw [← utf8Length_toList, toList_nestedText, utf8Length_append]
  omega

/-- One more pair of brackets around nested ones. -/
theorem asText_nestedText (depth : Nat) :
    Value.asText (.tuple [.char '(', .text (nestedText depth), .char ')']) =
      .text (nestedText (depth + 1)) := by
  refine congrArg Value.text (String.toList_inj.mp ?_)
  rw [Value.toList_toText, toList_nestedText, List.replicate_succ, List.replicate_succ']
  simp [toList_nestedText]

namespace Bracketed

variable {text rest rest' : List Char} {opened closed opened' closed' : Nat}

theorem exists_bracketed (text : List Char) : ∃ opened closed rest, Bracketed text opened closed rest := by
  obtain ⟨opened, behind, rfl, opened_all⟩ := exists_replicate_append '(' text
  obtain ⟨closed, rest, rfl, closed_all⟩ := exists_replicate_append ')' behind
  exact ⟨opened, closed, rest, rfl, opened_all, closed_all⟩

theorem unique (h : Bracketed text opened closed rest) (h' : Bracketed text opened' closed' rest') :
    opened' = opened ∧ closed' = closed ∧ rest' = rest := by
  have same := h'.text_eq.symm.trans h.text_eq
  obtain ⟨rfl, behind⟩ := replicate_append_inj same h'.opened_all h.opened_all
  obtain ⟨rfl, rfl⟩ := replicate_append_inj behind h'.closed_all h.closed_all
  exact ⟨rfl, rfl, rfl⟩

theorem unopened (h : Bracketed text 0 closed rest) : text.head? ≠ some '(' := by
  rw [h.text_eq]
  exact h.opened_all

theorem head_eq (h : Bracketed text (opened + 1) closed rest) : text.head? = some '(' := by
  rw [h.text_eq, List.replicate_succ, List.cons_append, List.head?_cons]

theorem tail (h : Bracketed text (opened + 1) closed rest) :
    Bracketed text.tail opened closed rest where
  text_eq := by rw [h.text_eq, List.replicate_succ, List.cons_append, List.tail_cons]
  opened_all := h.opened_all
  closed_all := h.closed_all

/-- Behind as many pairs as are nested, one more bracket is closed only where more were closed than
opened. -/
theorem closes_iff (h : Bracketed text opened closed rest) :
    text[2 * nestedDepth opened closed]? = some ')' ↔ opened < closed := by
  have text_eq := h.text_eq
  subst text_eq
  unfold nestedDepth
  split
  next enough =>
    have behind : 2 * opened - opened = opened := by omega
    rw [List.getElem?_append_right (by simp; omega), List.length_replicate, behind]
    by_cases more : opened < closed
    · rw [List.getElem?_append_left (by simpa using more)]
      simp [more]
    · obtain rfl : opened = closed := by omega
      rw [List.getElem?_append_right (by simp), List.length_replicate, Nat.sub_self,
        ← List.head?_eq_getElem?]
      exact ⟨fun closes => absurd closes h.closed_all, fun less => absurd less more⟩
  next few =>
    obtain ⟨n, rfl⟩ : ∃ n, opened = n + 1 := ⟨opened - 1, by omega⟩
    constructor
    · intro closes
      simp [List.replicate_succ] at closes
    · intro less
      omega

/-- The brackets that are nested stand at the beginning. -/
theorem take_nestedDepth (h : Bracketed text opened closed rest) :
    text.take (2 * nestedDepth opened closed) = (nestedText (nestedDepth opened closed)).toList := by
  have text_eq := h.text_eq
  subst text_eq
  unfold nestedDepth
  split
  next enough =>
    have twice : 2 * opened = (replicate opened '(').length + opened := by
      rw [List.length_replicate]
      omega
    rw [toList_nestedText, twice, List.take_length_add_append,
      List.take_append_of_le_length (by simpa using enough), List.take_replicate,
      Nat.min_eq_left enough]
  next few => rfl

end Bracketed

theorem bracketed_nestedText (depth : Nat) : Bracketed (nestedText depth).toList depth depth [] where
  text_eq := by rw [toList_nestedText, List.append_nil]
  opened_all := by cases depth <;> simp [List.replicate_succ]
  closed_all := by simp

theorem nestedDepth_self (depth : Nat) : nestedDepth depth depth = depth := if_pos (Nat.le_refl depth)

end SafeDescent
