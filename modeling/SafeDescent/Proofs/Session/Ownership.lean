import Mathlib.Data.List.Nodup
import SafeDescent.Session

namespace SafeDescent.Session

variable {ε : Type}

/-- One definition holds another one: it was defined with its name. -/
def Holds (session : Session ε) (holder number : Nat) : Prop :=
  ∃ definition, session.installed[holder]? = some definition ∧ number ∈ definition.imports

/-- A definition that is in the table, or that a live definition holds. -/
inductive Live (session : Session ε) : Nat → Prop
  | table {name : String} {number : Nat} : session.lookup name = some number → Live session number
  | held {holder number : Nat} : Live session holder → session.Holds holder number →
      Live session number

/-- Each name stands for one definition, and definitions hold only earlier ones. -/
structure Ordered (session : Session ε) : Prop where
  names : (session.table.map Prod.fst).Nodup
  table (name : String) (number : Nat) : (name, number) ∈ session.table →
    number < session.installed.size
  imports (holder number : Nat) : session.Holds holder number → number < holder

variable {session : Session ε} {number holder : Nat} {name : String}

theorem mem_of_lookup (h : session.lookup name = some number) : (name, number) ∈ session.table := by
  obtain ⟨⟨other, index⟩, found, rfl⟩ := Option.map_eq_some_iff.mp h
  have same : other = name := by simpa using List.find?_some found
  exact same ▸ List.mem_of_find?_eq_some found

theorem Ordered.lookup_iff (h : session.Ordered) :
    session.lookup name = some number ↔ (name, number) ∈ session.table := by
  refine ⟨mem_of_lookup, fun entry => ?_⟩
  have names := h.names
  unfold lookup
  generalize session.table = table at entry names
  induction table with
  | nil => cases entry
  | cons first table ih =>
    obtain ⟨other, index⟩ := first
    have absent := (List.nodup_cons.mp names).1
    by_cases same : other = name
    · subst same
      rcases List.mem_cons.mp entry with own | later
      · obtain ⟨-, rfl⟩ := Prod.mk.inj own
        simp
      · have twice : other ∈ table.map Prod.fst := List.mem_map.mpr ⟨_, later, rfl⟩
        exact (absent twice).elim
    · have later : (name, number) ∈ table := by
        rcases List.mem_cons.mp entry with own | later
        · exact (same (Prod.mk.inj own).1.symm).elim
        · exact later
      have rest := ih later (List.nodup_cons.mp names).2
      simpa [same] using rest

theorem Holds.lt_size (h : session.Holds holder number) : holder < session.installed.size := by
  obtain ⟨definition, found, -⟩ := h
  exact (Array.getElem?_eq_some_iff.mp found).1

theorem Live.lt_size (h : session.Ordered) (live : session.Live number) :
    number < session.installed.size := by
  cases live with
  | table named => exact h.table _ _ (mem_of_lookup named)
  | held _ holds => exact Nat.lt_trans (h.imports _ _ holds) holds.lt_size

/-- A definition lives by its name or by a later definition. It does nothing for its own life. -/
theorem Ordered.live_iff (h : session.Ordered) :
    session.Live number ↔ (∃ name, session.lookup name = some number) ∨
      ∃ holder, number < holder ∧ session.Live holder ∧ session.Holds holder number := by
  constructor
  · intro live
    cases live with
    | table named => exact .inl ⟨_, named⟩
    | held live holds => exact .inr ⟨_, h.imports _ _ holds, live, holds⟩
  · rintro (⟨name, named⟩ | ⟨holder, -, live, holds⟩)
    · exact .table named
    · exact .held live holds

/-- One definition is looked at, given the later ones that live. -/
def mark (session : Session ε) (number : Nat) (alive : List Nat) : List Nat :=
  let inTable := session.table.any fun (_, other) => other == number
  let isImported := alive.any fun holder =>
    match session.installed[holder]? with
    | some definition => definition.imports.contains number
    | none => false
  if inTable || isImported then number :: alive else alive

theorem live_eq_foldr : session.live = (List.range session.installed.size).foldr session.mark [] := rfl

theorem mem_mark {alive : List Nat} {other : Nat} :
    other ∈ session.mark number alive ↔ other ∈ alive ∨ other = number ∧
      ((∃ name, (name, number) ∈ session.table) ∨ ∃ holder ∈ alive, session.Holds holder number) := by
  have named : (session.table.any fun (_, other) => other == number) = true ↔
      ∃ name, (name, number) ∈ session.table := by
    simp
  have imported : (alive.any fun holder =>
      match session.installed[holder]? with
      | some definition => definition.imports.contains number
      | none => false) = true ↔ ∃ holder ∈ alive, session.Holds holder number := by
    rw [List.any_eq_true]
    refine exists_congr fun holder => and_congr_right fun _ => ?_
    unfold Holds
    cases session.installed[holder]? <;> simp
  unfold mark
  dsimp only
  split
  next found =>
    have lives := (Bool.or_eq_true ..).mp found
    rw [named, imported] at lives
    simp [lives, or_comm]
  next lost =>
    have dead : ¬ ((∃ name, (name, number) ∈ session.table) ∨
        ∃ holder ∈ alive, session.Holds holder number) := by
      rw [← named, ← imported, ← Bool.or_eq_true]
      exact lost
    simp [dead]

/-- The pass over the definitions from the latest on finds those that live. -/
theorem Ordered.mem_foldr_mark (h : session.Ordered) {count first : Nat}
    (whole : first + count = session.installed.size) :
    number ∈ (List.range' first count).foldr session.mark [] ↔
      first ≤ number ∧ session.Live number := by
  -- By induction on how many definitions are still to come: those after the first are found already.
  induction count generalizing first number with
  | zero =>
    simp only [List.range'_zero, List.foldr_nil, List.not_mem_nil, false_iff]
    rintro ⟨le, live⟩
    have lt := live.lt_size h
    omega
  | succ count ih =>
    have later {number : Nat} :
        number ∈ (List.range' (first + 1) count).foldr session.mark [] ↔
          first + 1 ≤ number ∧ session.Live number := ih (by omega)
    have lives : ((∃ name, (name, first) ∈ session.table) ∨
        ∃ holder ∈ (List.range' (first + 1) count).foldr session.mark [],
          session.Holds holder first) ↔ session.Live first := by
      rw [h.live_iff]
      refine or_congr (exists_congr fun name => h.lookup_iff.symm) (exists_congr fun holder => ?_)
      rw [later]
      constructor
      · rintro ⟨⟨le, live⟩, holds⟩
        exact ⟨le, live, holds⟩
      · rintro ⟨lt, live, holds⟩
        exact ⟨⟨lt, live⟩, holds⟩
    rw [List.range'_succ, List.foldr_cons, mem_mark, later, lives]
    constructor
    · rintro (⟨le, live⟩ | ⟨rfl, live⟩)
      · exact ⟨by omega, live⟩
      · exact ⟨Nat.le_refl _, live⟩
    · rintro ⟨le, live⟩
      rcases Nat.eq_or_lt_of_le le with rfl | lt
      · exact .inr ⟨rfl, live⟩
      · exact .inl ⟨lt, live⟩

theorem Ordered.mem_live (h : session.Ordered) : number ∈ session.live ↔ session.Live number := by
  rw [live_eq_foldr, List.range_eq_range', h.mem_foldr_mark (Nat.zero_add _)]
  simp

end SafeDescent.Session
