import SafeDescent.Reader

namespace SafeDescent

/-- A position in an array of elements. -/
structure SliceReader (ε : Type) where
  elements : Array ε
  index : Nat
  index_le : index ≤ elements.size

namespace SliceReader

variable {ε : Type}

def ofArray (elements : Array ε) : SliceReader ε := ⟨elements, 0, Nat.zero_le _⟩

def rest (r : SliceReader ε) : SliceReader ε :=
  if h : r.index < r.elements.size then ⟨r.elements, r.index + 1, h⟩ else r

/-- The elements not yet read. -/
def ahead (r : SliceReader ε) : List ε := r.elements.toList.drop r.index

def context (r : SliceReader ε) : String :=
  if r.elements.size ≤ r.index then "at end of input (" ++ toString r.elements.size ++ " elements)"
  else "at element " ++ toString r.index ++ " of " ++ toString r.elements.size

instance : Reader (SliceReader ε) ε where
  first r := r.elements[r.index]?
  rest := rest
  offset := index
  place r := toString r.index
  context := context

instance : LawfulReader (SliceReader ε) ε where
  ahead := ahead
  first_eq r := by simp [Reader.first, ahead]
  ahead_rest r := by
    simp only [Reader.rest, rest, ahead]
    split
    next h => simp
    next h => simp [List.drop_eq_nil_of_le (show r.elements.toList.length ≤ r.index by simpa using h)]
  offset_lt r h := by
    have bound : r.index < r.elements.size := by
      simpa [ahead, List.drop_eq_nil_iff] using h
    simp [Reader.offset, Reader.rest, rest, bound]
  rest_of_end r h := by
    have bound : ¬ r.index < r.elements.size := by
      simpa [ahead, List.drop_eq_nil_iff] using h
    simp [Reader.rest, rest, bound]

end SliceReader

end SafeDescent
