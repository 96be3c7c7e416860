import Mathlib.Order.Basic
import SafeDescent.Reader

namespace SafeDescent.Reader

variable {ρ ρ' ε : Type} [Reader ρ ε] [Reader ρ' ε]

/-- There are at least `n` elements ahead. -/
def Holds (n : Nat) (r : ρ) : Prop := ∀ i < n, (first (advance i r)).isSome

/-- There are `n` elements ahead, and then the input ends. -/
def HoldsOnly (n : Nat) (r : ρ) : Prop := Holds n r ∧ first (advance n r) = none

/-- The offset grows with every element ahead. -/
def Strict (r : ρ) : Prop :=
  ∀ n, Holds (n + 1) r → offset (advance n r) < offset (advance (n + 1) r)

/-- The offset never decreases over the elements ahead. -/
def Forward (r : ρ) : Prop :=
  ∀ n, Holds (n + 1) r → offset (advance n r) ≤ offset (advance (n + 1) r)

/-- The second position is the first one or stands some elements after it. -/
def Reaches (r r' : ρ) : Prop := ∃ n, Holds n r ∧ r' = advance n r

/-- The elements ahead of two positions are the same. -/
def SameAhead (r : ρ) (r' : ρ') : Prop :=
  ∀ n, Holds n r → first (advance n r) = first (advance n r')

theorem rest_advance (n : Nat) (r : ρ) : rest (advance n r) = advance (n + 1) r := by
  induction n generalizing r with
  | zero => rfl
  | succ n ih => exact ih (rest r)

theorem advance_add (m n : Nat) (r : ρ) : advance (m + n) r = advance n (advance m r) := by
  induction n with
  | zero => rfl
  | succ n ih => rw [← Nat.add_assoc, ← rest_advance, ih, rest_advance]

theorem read_eq_some_iff {r next : ρ} {x : ε} :
    read r = some (x, next) ↔ first r = some x ∧ rest r = next := by
  constructor
  · intro h
    obtain ⟨y, found, same⟩ := Option.map_eq_some_iff.mp h
    obtain ⟨rfl, rfl⟩ := Prod.mk.inj same
    exact ⟨found, rfl⟩
  · rintro ⟨found, rfl⟩
    rw [read, found, Option.map_some]

theorem read_eq_none_iff {r : ρ} : read r = none ↔ first r = none := Option.map_eq_none_iff

theorem Holds.zero (r : ρ) : Holds 0 r := fun _ h => absurd h (Nat.not_lt_zero _)

theorem Holds.mono {m n : Nat} {r : ρ} (h : Holds n r) (le : m ≤ n) : Holds m r :=
  fun i hi => h i (by omega)

theorem Holds.succ {n : Nat} {r : ρ} (h : Holds n r) (some : (first (advance n r)).isSome) :
    Holds (n + 1) r := by
  intro i hi
  rcases Nat.lt_succ_iff_lt_or_eq.mp hi with lt | rfl
  · exact h i lt
  · exact some

theorem holds_add {m n : Nat} {r : ρ} :
    Holds (m + n) r ↔ Holds m r ∧ Holds n (advance m r) := by
  constructor
  · intro h
    refine ⟨h.mono (by omega), ?_⟩
    intro i hi
    rw [← advance_add]
    exact h (m + i) (by omega)
  · intro h i hi
    obtain ⟨hm, hn⟩ := h
    by_cases lt : i < m
    · exact hm i lt
    · have := hn (i - m) (by omega)
      rwa [← advance_add, Nat.add_sub_cancel' (by omega)] at this

theorem Holds.le {m n : Nat} {r : ρ} (h : Holds n r) (only : HoldsOnly m r) : n ≤ m := by
  by_contra lt
  have := h m (by omega)
  simp [only.2] at this

theorem HoldsOnly.advance {m n : Nat} {r : ρ} (h : HoldsOnly (m + n) r) :
    HoldsOnly n (advance m r) := by
  obtain ⟨holds, ends⟩ := h
  rw [advance_add] at ends
  exact ⟨(holds_add.mp holds).2, ends⟩

theorem HoldsOnly.after {k n : Nat} {r : ρ} (h : HoldsOnly n r) (holds : Holds k r) :
    HoldsOnly (n - k) (Reader.advance k r) := by
  obtain ⟨rest, rfl⟩ := Nat.exists_eq_add_of_le (holds.le h)
  rw [Nat.add_sub_cancel_left]
  exact h.advance

theorem Strict.forward {r : ρ} (h : Strict r) : Forward r := fun n hn => Nat.le_of_lt (h n hn)

theorem Forward.offset_le {m n : Nat} {r : ρ} (h : Forward r) (holds : Holds n r) (le : m ≤ n) :
    offset (Reader.advance m r) ≤ offset (Reader.advance n r) := by
  induction n with
  | zero =>
    obtain rfl : m = 0 := by omega
    exact Nat.le_refl _
  | succ n ih =>
    have step := h n holds
    rcases Nat.lt_or_eq_of_le le with lt | rfl
    · have := ih (holds.mono (by omega)) (by omega)
      omega
    · exact Nat.le_refl _

theorem Strict.offset_lt {m n : Nat} {r : ρ} (h : Strict r) (holds : Holds n r) (lt : m < n) :
    offset (Reader.advance m r) < offset (Reader.advance n r) := by
  have step := h m (holds.mono lt)
  have := h.forward.offset_le holds lt
  exact Nat.lt_of_lt_of_le step this

theorem Strict.offset_lt_iff {m n : Nat} {r : ρ} (h : Strict r) (hm : Holds m r) (hn : Holds n r) :
    offset (Reader.advance m r) < offset (Reader.advance n r) ↔ m < n := by
  refine ⟨fun lt => ?_, h.offset_lt hn⟩
  by_contra le
  have := h.forward.offset_le hm (Nat.le_of_not_lt le)
  omega

theorem Strict.advance {n : Nat} {r : ρ} (h : Strict r) (holds : Holds n r) :
    Strict (Reader.advance n r) := by
  intro k hk
  have hk' : Holds (n + (k + 1)) r := holds_add.mpr ⟨holds, hk⟩
  have := h (n + k) hk'
  rwa [Nat.add_assoc, advance_add, advance_add] at this

theorem Reaches.refl (r : ρ) : Reaches r r := ⟨0, .zero r, rfl⟩

theorem Reaches.rest {r r' : ρ} (h : Reaches r r') (some : (first r').isSome) :
    Reaches r (rest r') := by
  obtain ⟨n, holds, rfl⟩ := h
  exact ⟨n + 1, holds.succ some, rest_advance n r⟩

theorem Reaches.offset_le {r r' : ρ} (h : Reaches r r') (forward : Forward r) :
    offset r ≤ offset r' := by
  obtain ⟨n, holds, rfl⟩ := h
  exact forward.offset_le holds (Nat.zero_le n)

/-- Where the offset grows, only the position itself has the same one. -/
theorem Reaches.offset_eq_iff {r r' : ρ} (h : Reaches r r') (strict : Strict r) :
    offset r = offset r' ↔ r' = r := by
  refine ⟨fun same => ?_, fun same => same ▸ rfl⟩
  obtain ⟨n, holds, rfl⟩ := h
  cases n with
  | zero => rfl
  | succ n =>
    have further : offset r < offset (Reader.advance (n + 1) r) :=
      strict.offset_lt (m := 0) holds (Nat.succ_pos n)
    omega

theorem SameAhead.holds {n : Nat} {r : ρ} {r' : ρ'} (same : SameAhead r r') (h : Holds n r) :
    Holds n r' := by
  intro i hi
  rw [← same i (h.mono (Nat.le_of_lt hi))]
  exact h i hi

section Lawful

variable [LawfulReader ρ ε] [LawfulReader ρ' ε]

theorem ahead_eq_cons {r : ρ} {x : ε} (h : first r = some x) :
    LawfulReader.ahead r = x :: LawfulReader.ahead (rest r) := by
  rw [LawfulReader.first_eq] at h
  obtain ⟨more, cut⟩ := List.head?_eq_some_iff.mp h
  rw [LawfulReader.ahead_rest, cut, List.tail_cons]

theorem ahead_eq_nil_iff {r : ρ} : LawfulReader.ahead r = [] ↔ first r = none := by
  rw [LawfulReader.first_eq, List.head?_eq_none_iff]

theorem ahead_advance (n : Nat) (r : ρ) :
    LawfulReader.ahead (advance n r) = (LawfulReader.ahead r).drop n := by
  induction n generalizing r with
  | zero => rfl
  | succ n ih => rw [advance, ih, LawfulReader.ahead_rest, List.drop_tail]

theorem first_advance (n : Nat) (r : ρ) :
    first (advance n r) = (LawfulReader.ahead r)[n]? := by
  rw [LawfulReader.first_eq, ahead_advance, List.head?_drop]

theorem holds_iff {n : Nat} {r : ρ} : Holds n r ↔ n ≤ (LawfulReader.ahead r).length := by
  constructor
  · intro h
    by_contra lt
    have := h _ (Nat.lt_of_not_le lt)
    simp [first_advance] at this
  · intro le i hi
    rw [first_advance, List.getElem?_eq_getElem (by omega)]
    rfl

theorem holdsOnly_length (r : ρ) : HoldsOnly (LawfulReader.ahead r).length r :=
  ⟨holds_iff.mpr (Nat.le_refl _), by simp [first_advance]⟩

theorem strict_of_lawful (r : ρ) : Strict r := by
  intro n h
  rw [← rest_advance]
  apply LawfulReader.offset_lt
  have := holds_iff.mp h
  rw [ahead_advance, ne_eq, List.drop_eq_nil_iff]
  omega

theorem sameAhead_of_ahead_eq {r : ρ} {r' : ρ'}
    (h : LawfulReader.ahead r = LawfulReader.ahead r') : SameAhead r r' := by
  intro n _
  rw [first_advance, first_advance, h]

end Lawful

end SafeDescent.Reader
