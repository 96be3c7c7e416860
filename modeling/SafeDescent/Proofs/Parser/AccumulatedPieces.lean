import SafeDescent.Proofs.Parser.NestedLeaves
import SafeDescent.Proofs.Value.Collections

namespace SafeDescent

namespace Mixed

/-- An entry is found under its index and under the type it was stored at, and under no other. -/
theorem get?_eq_some_iff {α τ : Type} [DecidableEq τ] {entries : Mixed α τ} {as : τ} {index : Nat}
    {entry : Entry α τ} :
    entries.get? as index = some entry ↔ entries[index]? = some entry ∧ entry.stored = as := by
  unfold get?
  cases found : entries[index]? with
  | none => simp
  | some other =>
    by_cases same : other.stored = as
    · simp only [if_pos same, Option.some.injEq]
      constructor
      · rintro rfl
        exact ⟨rfl, same⟩
      · exact And.left
    · simp only [if_neg same, Option.some.injEq, reduceCtorEq, false_iff, not_and]
      rintro rfl
      exact same

theorem isSome_get?_iff {α τ : Type} [DecidableEq τ] {entries : Mixed α τ} {as : τ} {index : Nat} :
    (entries.get? as index).isSome ↔
      ∃ h : index < entries.length, (entries.get ⟨index, h⟩).stored = as := by
  simp only [Option.isSome_iff_exists, get?_eq_some_iff, List.getElem?_eq_some_iff]
  constructor
  · rintro ⟨entry, ⟨h, rfl⟩, stored⟩
    exact ⟨h, stored⟩
  · rintro ⟨h, stored⟩
    exact ⟨_, ⟨h, rfl⟩, stored⟩

end Mixed

theorem Value.stored_store (as : Stored) (v : Value) : (v.store as).stored = as := by
  cases as <;> rfl

variable {ρ ε : Type}

namespace Parser

/-- A leaf of a tree of accumulating sequences: its value is one element, or itself a sequence. -/
inductive Piece (ε : Type) where
  | element (parser : Parser ε)
  | sequence (parser : Parser ε)

namespace Piece

/-- The leaf with the elements that its value contributes to a collection. -/
def leaf (shape : Shape) : Piece ε → Leaf ε Value
  | .element parser => (parser, shape.single)
  | .sequence parser => (parser, shape.elements)

def parser : Piece ε → Parser ε
  | .element parser => parser
  | .sequence parser => parser

theorem leaf_fst (piece : Piece ε) (shape : Shape) : (piece.leaf shape).1 = piece.parser := by
  cases piece <;> rfl

theorem map_leaf_fst (pieces : List (Piece ε)) (shape : Shape) :
    (pieces.map (leaf shape)).map Prod.fst = pieces.map parser := by
  rw [List.map_map]
  exact List.map_congr_left fun piece _ => piece.leaf_fst shape

theorem contents_leaf_eq {pieces : List (Piece ε)} {values : List Value} {shape shape' : Shape}
    (h : List.Forall₂ (fun piece value => (piece.leaf shape').2 value = (piece.leaf shape).2 value)
      pieces values) :
    contents (pieces.map (leaf shape')) values = contents (pieces.map (leaf shape)) values := by
  induction h with
  | nil => rfl
  | cons same _ ih =>
    simp only [contents] at ih
    simp only [contents, List.map_cons, List.zipWith_cons_cons, List.flatten_cons, same, ih]

/-- The value consists of characters. -/
def Spells : Piece ε → Value → Prop
  | .element _, v => ∃ c, v = .char c
  | .sequence _, v => ∃ cs : List Char, v.items = cs.map .char

/-- All shapes take the same elements from a value that consists of characters. -/
theorem Spells.leaf_eq {piece : Piece ε} {v : Value} (h : piece.Spells v) (shape shape' : Shape) :
    (piece.leaf shape').2 v = (piece.leaf shape).2 v := by
  cases piece with
  | element parser =>
    obtain ⟨c, rfl⟩ := h
    have letter (shape : Shape) : shape.single (.char c) = [.char c] := by
      cases shape <;> simp [Shape.single, Value.firstChar]
    exact (letter shape').trans (letter shape).symm
  | sequence parser =>
    obtain ⟨cs, items⟩ := h
    have letters (shape : Shape) : shape.elements v = cs.map .char := by
      cases shape with
      | list => exact items
      | deque => exact items
      | text =>
        have chars : v.chars = cs := by
          rw [← Value.flatMap_items, items]
          simp [List.flatMap_map]
        rw [Shape.elements, chars]
    exact (letters shape').trans (letters shape).symm

/-- Lists and deques take the same elements from every value. -/
theorem leaf_eq_of_text_iff (piece : Piece ε) {shape shape' : Shape}
    (same : shape = .text ↔ shape' = .text) : (piece.leaf shape').2 = (piece.leaf shape).2 := by
  cases shape <;> cases shape' <;> simp at same <;> cases piece <;> rfl

end Piece

end Parser

end SafeDescent
