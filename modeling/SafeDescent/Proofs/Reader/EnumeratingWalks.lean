import Mathlib.Algebra.Ring.Nat
import SafeDescent.Proofs.Reader.Ahead

namespace SafeDescent

namespace Reader

variable {ρ ε : Type} [Reader ρ ε]

/-- Reading until the input ends hands out the elements, one after the other. -/
inductive ReadsOut : ρ → List ε → Prop
  | done {r : ρ} : read r = none → ReadsOut r []
  | more {r next : ρ} {x : ε} {xs : List ε} :
      read r = some (x, next) → ReadsOut next xs → ReadsOut r (x :: xs)

/-- A walk from a position comes by the elements of a source in order. Its offset adds up the sizes of
the elements that it has passed, grows with every one of them, and then stays. -/
structure Enumerates (size : ε → Nat) (start : ρ) (source : List ε) : Prop where
  first (n : Nat) : Reader.first (advance n start) = source[n]?
  offset (n : Nat) :
    Reader.offset (advance n start) = ((source.take (min n source.length)).map size).sum
  grows (n : Nat) :
    n < source.length → Reader.offset (advance n start) < Reader.offset (advance (n + 1) start)
  stays (n : Nat) : source.length ≤ n → advance (n + 1) start = advance n start
  atEnd_iff (n : Nat) :
    atEnd (advance n start) = true ↔ Reader.offset (advance n start) = (source.map size).sum
  readsOut_iff (n : Nat) (xs : List ε) : ReadsOut (advance n start) xs ↔ xs = source.drop n

variable [LawfulReader ρ ε]

open LawfulReader (ahead)

theorem readsOut_iff {r : ρ} {xs : List ε} : ReadsOut r xs ↔ xs = ahead r := by
  constructor
  · intro h
    induction h with
    | done ended => exact (ahead_eq_nil_iff.mpr (read_eq_none_iff.mp ended)).symm
    | more handed _ ih =>
      obtain ⟨found, rfl⟩ := read_eq_some_iff.mp handed
      rw [ahead_eq_cons found, ih]
  · intro same
    subst same
    -- One element of those ahead is read at a time.
    induction left : ahead r generalizing r with
    | nil => exact .done (read_eq_none_iff.mpr (ahead_eq_nil_iff.mp left))
    | cons x xs ih =>
      have found : first r = some x := by rw [LawfulReader.first_eq, left, List.head?_cons]
      have behind : ahead (rest r) = xs := by rw [LawfulReader.ahead_rest, left, List.tail_cons]
      exact .more (read_eq_some_iff.mpr ⟨found, rfl⟩) (ih behind)

variable {size : ε → Nat} {start : ρ}

theorem offset_advance
    (sized : ∀ (r : ρ) (x : ε), first r = some x → offset (rest r) = offset r + size x) (n : Nat) :
    offset (advance n start) = offset start + (((ahead start).take n).map size).sum := by
  induction n with
  | zero => rfl
  | succ n ih =>
    have passed := first_advance n start
    rw [← rest_advance, List.take_add_one, ← passed]
    cases found : first (advance n start) with
    | none =>
      have same := LawfulReader.rest_of_end _ (ahead_eq_nil_iff.mpr found)
      rw [same, ih, Option.toList_none, List.append_nil]
    | some x =>
      have further := sized _ x found
      rw [further, ih, Option.toList_some, List.map_append, List.sum_append, List.map_singleton,
        List.sum_singleton, Nat.add_assoc]

/-- A reader whose offset counts the sizes of the elements enumerates what is ahead of its start. -/
theorem enumerates_of_sized
    (sized : ∀ (r : ρ) (x : ε), first r = some x → offset (rest r) = offset r + size x)
    (fresh : offset start = 0) : Enumerates size start (ahead start) := by
  have passed (n : Nat) : offset (advance n start) = (((ahead start).take n).map size).sum := by
    rw [offset_advance sized, fresh, Nat.zero_add]
  have strict := strict_of_lawful start
  refine ⟨fun n => first_advance n start, fun n => ?_, fun n inside => ?_, fun n outside => ?_,
    fun n => ?_, fun n xs => ?_⟩
  · rw [passed, List.take_eq_take_min]
  · exact strict n (holds_iff.mpr inside)
  · rw [← rest_advance]
    apply LawfulReader.rest_of_end
    rw [ahead_advance, List.drop_eq_nil_of_le outside]
  · have last := passed (ahead start).length
    rw [List.take_length] at last
    rw [← last]
    constructor
    · intro ended
      have gone : (ahead start)[n]? = none := by
        rw [← first_advance]
        exact Option.isNone_iff_eq_none.mp ended
      rw [passed, last, List.take_of_length_le (List.getElem?_eq_none_iff.mp gone)]
    · intro same
      by_contra more
      have inside : n < (ahead start).length := by
        by_contra outside
        have gone : first (advance n start) = none := by
          rw [first_advance, List.getElem?_eq_none_iff]
          omega
        rw [atEnd, gone] at more
        exact more rfl
      have further := strict.offset_lt (holds_iff.mpr (Nat.le_refl _)) inside
      omega
  · rw [readsOut_iff, ahead_advance]

theorem advance_of_end {r : ρ} (ended : ahead r = []) (n : Nat) : advance n r = r := by
  induction n with
  | zero => rfl
  | succ n ih => rw [← rest_advance, ih, LawfulReader.rest_of_end r ended]

/-- Moving on beyond the end makes no difference. -/
theorem advance_min (n : Nat) (r : ρ) : advance (min n (ahead r).length) r = advance n r := by
  rcases Nat.le_total n (ahead r).length with inside | outside
  · rw [Nat.min_eq_left inside]
  · rw [Nat.min_eq_right outside]
    have ended : ahead (advance (ahead r).length r) = [] := by rw [ahead_advance, List.drop_length]
    obtain ⟨more, rfl⟩ := Nat.exists_eq_add_of_le outside
    rw [advance_add, advance_of_end ended]

/-- The offset orders the positions of a walk as they come, up to the end. -/
theorem offset_advance_lt_iff {m n : Nat} {r : ρ} :
    offset (advance m r) < offset (advance n r) ↔ min m (ahead r).length < min n (ahead r).length := by
  have inside (k : Nat) : Holds (min k (ahead r).length) r := holds_iff.mpr (Nat.min_le_right _ _)
  rw [← advance_min m, ← advance_min n]
  exact (strict_of_lawful r).offset_lt_iff (inside m) (inside n)

theorem advance_eq_iff {m n : Nat} {r : ρ} :
    advance m r = advance n r ↔ min m (ahead r).length = min n (ahead r).length := by
  constructor
  · intro same
    have lt := offset_advance_lt_iff (m := m) (n := n) (r := r)
    have gt := offset_advance_lt_iff (m := n) (n := m) (r := r)
    rw [same] at lt gt
    omega
  · intro same
    rw [← advance_min m, ← advance_min n, same]

end Reader

end SafeDescent
