import SafeDescent.Parser.Text
import SafeDescent.Proofs.Parser.GatheringTrees
import SafeDescent.Reader.Text

namespace SafeDescent

/-- Accumulating sequences keep the order of the parse, whatever the nesting. -/
theorem accumulation_keeps_order {ε : Type} [Element ε] [DecidableEq ε] (library : Library ε) :
    (∀ (shape : Shape) (parser : Parser ε) (pieces : List (Parser.Piece ε)),
      Parser.Gathers shape parser pieces →
        parser.InOrder library (pieces.map (Parser.Piece.leaf shape)) shape.elements ∧
          (1 < pieces.length → ∀ (ρ : Type) [Reader ρ ε] (input r : ρ) (value : Value),
            parser.Yields library input (.success value r) → shape.Holds value)) ∧
      (∀ (shape shape' : Shape) (parser parser' : Parser ε) (pieces : List (Parser.Piece ε)),
        Parser.Gathers shape parser pieces → Parser.Gathers shape' parser' pieces →
        ((shape = .text ↔ shape' = .text) ∨ ∀ piece ∈ pieces, piece.Lettered library) →
        ∀ (kept : Bool) (path path' : List Nat) (ρ : Type) [Reader ρ ε] (input : ρ)
          (outcome : Outcome ρ Value), (parser.place kept path).Yields library input outcome →
            ∃ outcome', (parser'.place kept path').Yields library input outcome' ∧
              outcome'.map shape'.elements = outcome.map shape.elements ∧
              (1 < pieces.length →
                outcome' = outcome.map fun value => shape'.ofElements (shape.elements value))) ∧
      (∀ (parser : Parser ε) (leaves : List (Parser.Leaf ε (Entry Value))),
        Parser.GathersMixed parser leaves →
          parser.InOrder library leaves Value.entries ∧
            (1 < leaves.length → ∀ (ρ : Type) [Reader ρ ε] (input r : ρ) (value : Value),
              parser.Yields library input (.success value r) → value = .mixed value.entries)) ∧
      (∀ (parser parser' : Parser ε) (leaves : List (Parser.Leaf ε (Entry Value))),
        Parser.GathersMixed parser leaves → Parser.GathersMixed parser' leaves → 1 < leaves.length →
        ∀ (kept : Bool) (path path' : List Nat) (ρ : Type) [Reader ρ ε] (input : ρ)
          (outcome : Outcome ρ Value), (parser.place kept path).Yields library input outcome →
            (parser'.place kept path').Yields library input outcome) ∧
      (∀ (as : Stored) (value : Value), (value.store as).stored = as) ∧
      ∀ (α τ : Type) [DecidableEq τ] (entries : Mixed α τ) (as : τ) (index : Nat),
        (entries.get? as index).isSome ↔
          ∃ h : index < entries.length, (entries.get ⟨index, h⟩).stored = as := by
  refine ⟨?_, ?_, ?_, ?_, Value.stored_store, ?_⟩
  · intro shape parser pieces gathers
    refine ⟨gathers.nested.inOrder library, fun several ρ _ input r value yields => ?_⟩
    obtain ⟨combine, first, second, rfl, holds⟩ := gathers.combines several
    obtain ⟨a, b, rfl⟩ := yields.of_sequence
    exact holds a b
  · intro shape shape' parser parser' pieces gathers gathers' comparable kept path path' ρ _ input
      outcome yields
    exact gathers.yields gathers' comparable yields path'
  · intro parser leaves gathers
    refine ⟨gathers.nested.inOrder library, fun several ρ _ input r value yields => ?_⟩
    obtain ⟨combine, first, second, rfl, holds⟩ := gathers.combines several
    obtain ⟨a, b, rfl⟩ := yields.of_sequence
    exact (holds a b).symm
  · intro parser parser' leaves gathers gathers' several kept path path' ρ _ input outcome yields
    exact gathers.yields gathers' several yields path'
  · exact fun α τ _ entries as index => Mixed.isSome_get?_iff

/-- Three letters as a text from the left and as a list from the right, and two of them around an
empty mixed sequence in both bracketings. -/
theorem accumulation_keeps_order_letters :
    let library : Library Char := fun _ => none
    let pieces : List (Parser.Piece Char) := [.element .any, .element .any, .element .any]
    let text : Parser Char := .append .text (.collect .text .any .any) .any
    let list : Parser Char := .prepend .list .any (.collect .list .any .any)
    let inner : Parser Char := .prependMixed .char .any (.appendMixed .emptyMixed .text .any)
    let outer : Parser Char := .appendMixed (.prependMixed .char .any .emptyMixed) .text .any
    let stored : List (Parser.Leaf Char (Entry Value)) :=
      [(.any, fun v => [v.store .char]), (.emptyMixed, Value.entries), (.any, fun v => [v.store .text])]
    let start := TextReader.ofString "abc"
    Parser.Gathers .text text pieces ∧ Parser.Gathers .list list pieces ∧
      (∀ piece ∈ pieces, piece.Lettered library) ∧
      text.InOrder library (pieces.map (Parser.Piece.leaf .text)) Shape.text.elements ∧
      Parser.GathersMixed inner stored ∧ Parser.GathersMixed outer stored ∧
      inner.InOrder library stored Value.entries ∧
      (text.place true [0]).Yields library start (.success (.text "abc") (Reader.advance 3 start)) ∧
      (list.place true [1]).Yields library start
        (.success (.list [.char 'a', .char 'b', .char 'c']) (Reader.advance 3 start)) ∧
      (inner.place true [0]).Yields library start
        (.success (.mixed [.char 'a', .text "b"]) (Reader.advance 2 start)) ∧
      (outer.place true [1]).Yields library start
        (.success (.mixed [.char 'a', .text "b"]) (Reader.advance 2 start)) ∧
      (Mixed.get? [.char 'a', .text "b"] .text 1 : Option (Entry Value)).isSome := by
  intro library pieces text list inner outer stored start
  have gathersText : Parser.Gathers .text text pieces := .append .any (.collect .any .any)
  have gathersList : Parser.Gathers .list list pieces := .prepend .any (.collect .any .any)
  have gathersInner : Parser.GathersMixed inner stored :=
    .prepend .char .any (.append .text .any (.sequence .emptyMixed))
  have gathersOuter : Parser.GathersMixed outer stored :=
    .append .text .any (.prepend .char .any (.sequence .emptyMixed))
  have lettered : ∀ piece ∈ pieces, piece.Lettered library := by
    intro piece mem kept path ρ _ input r value yields
    have same : piece = .element .any := by simpa [pieces] using mem
    subst same
    have read := Parser.yields_primitive_iff.mp yields
    simp only [Primitive.run] at read
    split at read
    next c next _ =>
      obtain ⟨rfl, -⟩ := Outcome.success.inj read
      exact ⟨c, rfl⟩
    next => cases read
  have yieldsText : (text.place true [0]).Yields library start
      (.success (.text "abc") (Reader.advance 3 start)) := .of_run 40 ⟨_, rfl⟩
  have yieldsInner : (inner.place true [0]).Yields library start
      (.success (.mixed [.char 'a', .text "b"]) (Reader.advance 2 start)) := .of_run 40 ⟨_, rfl⟩
  obtain ⟨plain, across, anything, mixed, -, found⟩ := accumulation_keeps_order library
  obtain ⟨outcome, yieldsList, -, held⟩ := across .text .list text list pieces gathersText gathersList
    (.inr lettered) true [0] [1] TextReader start _ yieldsText
  rw [held (by decide)] at yieldsList
  exact ⟨gathersText, gathersList, lettered, (plain _ _ _ gathersText).1,
    gathersInner, gathersOuter, (anything _ _ gathersInner).1, yieldsText, yieldsList, yieldsInner,
    mixed inner outer stored gathersInner gathersOuter (by decide) true [0] [1] TextReader start _ yieldsInner,
    (found _ _ _ _ _).mpr ⟨by decide, rfl⟩⟩

end SafeDescent
