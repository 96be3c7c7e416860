namespace SafeDescent

/-- Collections that grow by one element at either end, or by another collection. -/
class Growing (σ : Type) (ε : outParam Type) where
  empty : σ
  append : σ → ε → σ
  prepend : σ → ε → σ
  concat : σ → σ → σ

/-- A sequence that is open at both ends. -/
structure Deque (α : Type) where
  items : List α

instance {α : Type} : Growing (List α) α where
  empty := []
  append xs x := xs ++ [x]
  prepend xs x := x :: xs
  concat xs ys := xs ++ ys

instance {α : Type} : Growing (Deque α) α where
  empty := ⟨[]⟩
  append xs x := ⟨xs.items ++ [x]⟩
  prepend xs x := ⟨x :: xs.items⟩
  concat xs ys := ⟨xs.items ++ ys.items⟩

instance : Growing String Char where
  empty := ""
  append s c := s.push c
  prepend s c := c.toString ++ s
  concat s t := s ++ t

/-- A collection of the two elements in order. -/
def Growing.pair {σ ε : Type} [Growing σ ε] (x y : ε) : σ :=
  append (append empty x) y

/-- Growing collections whose elements can be listed, with the operations seen through the list. -/
class LawfulGrowing (σ : Type) (ε : outParam Type) [Growing σ ε] where
  toList : σ → List ε
  toList_empty : toList (Growing.empty : σ) = []
  toList_append (s : σ) (x : ε) : toList (Growing.append s x) = toList s ++ [x]
  toList_prepend (s : σ) (x : ε) : toList (Growing.prepend s x) = x :: toList s
  toList_concat (s t : σ) : toList (Growing.concat s t) = toList s ++ toList t

instance {α : Type} : LawfulGrowing (List α) α where
  toList xs := xs
  toList_empty := rfl
  toList_append _ _ := rfl
  toList_prepend _ _ := rfl
  toList_concat _ _ := rfl

instance {α : Type} : LawfulGrowing (Deque α) α where
  toList xs := xs.items
  toList_empty := rfl
  toList_append _ _ := rfl
  toList_prepend _ _ := rfl
  toList_concat _ _ := rfl

instance : LawfulGrowing String Char where
  toList := String.toList
  toList_empty := by simp [Growing.empty]
  toList_append _ _ := by simp [Growing.append]
  toList_prepend _ _ := by simp [Growing.prepend]
  toList_concat _ _ := by simp [Growing.concat]

/-- The types under which parsers store entries of a mixed sequence. -/
inductive Stored where
  | char
  | int
  | text
  | value
deriving DecidableEq

/-- An entry of a mixed sequence. It comes back only under the type it was stored at. -/
structure Entry (α : Type) (τ : Type := Stored) where
  stored : τ
  content : α

/-- A sequence of entries of any types. -/
abbrev Mixed (α : Type) (τ : Type := Stored) := List (Entry α τ)

namespace Mixed

variable {α τ : Type}

/-- The entry at an index, if it was stored at the type asked for. -/
def get? [DecidableEq τ] (entries : Mixed α τ) (as : τ) (index : Nat) : Option (Entry α τ) :=
  match entries[index]? with
  | none => none
  | some entry => if entry.stored = as then some entry else none

def append (entries : Mixed α τ) (entry : Entry α τ) : Mixed α τ := entries ++ [entry]

def prepend (entries : Mixed α τ) (entry : Entry α τ) : Mixed α τ := entry :: entries

def concat (entries others : Mixed α τ) : Mixed α τ := entries ++ others

end Mixed

end SafeDescent
