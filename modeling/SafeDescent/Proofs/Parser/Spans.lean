import SafeDescent.Parser.Text
import SafeDescent.Proofs.Parser.ChoiceRules
import SafeDescent.Proofs.Reader.Walking

namespace SafeDescent

namespace SliceReader

variable {ε : Type} {input r : SliceReader ε}

theorem elements_of_reaches (h : Reader.Reaches input r) : r.elements = input.elements := by
  obtain ⟨n, -, rfl⟩ := h
  exact elements_advance n input

/-- The elements between two positions, and then those after the second one. -/
theorem extract_append_ahead (h : Reader.Reaches input r) :
    (input.elements.extract input.index r.index).toList ++ r.ahead = input.ahead := by
  have order : input.index ≤ r.index := h.offset_le (Reader.strict_of_lawful input).forward
  obtain ⟨count, index⟩ := Nat.exists_eq_add_of_le order
  rw [ahead, ahead, elements_of_reaches h, index, Array.toList_extract, List.extract_eq_take_drop,
    Nat.add_sub_cancel_left, ← List.drop_drop, List.take_append_drop]

end SliceReader

section

variable {ρ ε : Type} [Reader ρ ε] [Element ε] [DecidableEq ε] {library : Library ε}
  {parser : Parser ε} {input r : ρ} {value : Value}

theorem Parser.yields_spanned_success_iff :
    parser.spanned.Yields library input (.success value r) ↔
      ∃ v, parser.Yields library input (.success v r) ∧
        value = .tuple [v, .span ⟨Reader.offset input, Reader.offset r⟩] := by
  rw [Parser.spanned, yields_adjust_iff]
  constructor
  · rintro ⟨ended, yields, adjusted⟩
    cases ended with
    | success v r' =>
      obtain ⟨rfl, rfl⟩ := Outcome.success.inj adjusted
      exact ⟨v, yields, rfl⟩
    | failure message r' => cases adjusted
    | error message r' => cases adjusted
  · rintro ⟨v, yields, rfl⟩
    exact ⟨_, yields, rfl⟩

end

/-- The span of a success covers what was consumed. In a text its slice is what was read, for two spans
in a row the slices join, and in an array of elements it covers the elements that were read. -/
theorem spans_cut_out_consumed (store : Store) (extent : Extent) :
    (∀ (library : Library Char) (parser : Parser Char) (input r : TextReader) (value : Value),
      store.Answers library extent parser.spanned input (.success value r) →
        ∃ v span text, value = .tuple [v, .span span] ∧
          store.Answers library extent parser input (.success v r) ∧
          span.start = input.offset ∧ span.stop = r.offset ∧ span.start ≤ span.stop ∧
          span.length? = some (span.stop - span.start) ∧ (span.isEmpty = true ↔ r = input) ∧
          span.slice? input.source = some text ∧ text ++ r.unread = input.unread) ∧
      (∀ (library : Library Char) (combine : Value → Value → Value) (first second : Parser Char)
        (input r : TextReader) (value : Value),
        store.Answers library extent (.sequence combine first.spanned second.spanned) input
            (.success value r) →
          ∃ v w front back text text',
            value = combine (.tuple [v, .span front]) (.tuple [w, .span back]) ∧
            front.start = input.offset ∧ front.stop = back.start ∧ back.stop = r.offset ∧
            front.slice? input.source = some text ∧ back.slice? input.source = some text' ∧
            (Span.mk front.start back.stop).slice? input.source = some (text ++ text')) ∧
      ∀ (ε : Type) [Element ε] [DecidableEq ε] (library : Library ε) (parser : Parser ε)
        (input r : SliceReader ε) (value : Value),
        store.Answers library extent parser.spanned input (.success value r) →
          ∃ v span, value = .tuple [v, .span span] ∧
            store.Answers library extent parser input (.success v r) ∧
            span.start = input.index ∧ span.stop = r.index ∧ span.start ≤ span.stop ∧
            (span.isEmpty = true ↔ r = input) ∧ r.elements = input.elements ∧
            (input.elements.extract span.start span.stop).toList ++ r.ahead = input.ahead := by
  refine ⟨?_, ?_, ?_⟩
  · intro library parser input r value answers
    obtain ⟨spanned, atEnd⟩ := Store.answers_success_iff.mp answers
    obtain ⟨v, yields, rfl⟩ := Parser.yields_spanned_success_iff.mp spanned
    have reaches : Reader.Reaches input r := yields.reaches
    obtain ⟨read, reads⟩ := TextReader.reads_of_reaches reaches
    have strict := Reader.strict_of_lawful input
    have order : input.offset ≤ r.offset := reaches.offset_le strict.forward
    refine ⟨v, ⟨input.offset, r.offset⟩, String.ofList read, rfl,
      Store.answers_success_iff.mpr ⟨yields, atEnd⟩, rfl, rfl, order, ?_, ?_, reads.slice,
      reads.unread⟩
    · rw [Span.length?, if_neg (Nat.not_lt_of_le order)]
    · rw [Span.isEmpty, beq_iff_eq]
      exact reaches.offset_eq_iff strict
  · intro library combine first second input r value answers
    obtain ⟨sequence, -⟩ := Store.answers_success_iff.mp answers
    obtain ⟨a, middle, b, hfirst, hsecond, rfl⟩ := Parser.yields_sequence_success_iff.mp sequence
    obtain ⟨v, hfirst, rfl⟩ := Parser.yields_spanned_success_iff.mp hfirst
    obtain ⟨w, hsecond, rfl⟩ := Parser.yields_spanned_success_iff.mp hsecond
    obtain ⟨read, reads⟩ := TextReader.reads_of_reaches hfirst.reaches
    obtain ⟨more, reads'⟩ := TextReader.reads_of_reaches hsecond.reaches
    refine ⟨v, w, ⟨input.offset, middle.offset⟩, ⟨middle.offset, r.offset⟩, String.ofList read,
      String.ofList more, rfl, rfl, rfl, rfl, reads.slice, ?_, ?_⟩
    · rw [← reads.source]
      exact reads'.slice
    · rw [← String.ofList_append]
      exact (reads.trans reads').slice
  · intro ε _ _ library parser input r value answers
    obtain ⟨spanned, atEnd⟩ := Store.answers_success_iff.mp answers
    obtain ⟨v, yields, rfl⟩ := Parser.yields_spanned_success_iff.mp spanned
    have reaches : Reader.Reaches input r := yields.reaches
    have strict := Reader.strict_of_lawful input
    refine ⟨v, ⟨input.index, r.index⟩, rfl, Store.answers_success_iff.mpr ⟨yields, atEnd⟩, rfl, rfl,
      reaches.offset_le strict.forward, ?_, SliceReader.elements_of_reaches reaches,
      SliceReader.extract_append_ahead reaches⟩
    rw [Span.isEmpty, beq_iff_eq]
    exact reaches.offset_eq_iff strict

/-- Two characters after an offset of one byte, the first of them of two bytes, and the same characters
in an array. -/
theorem spans_cut_out_consumed_twoByteLetter :
    let library : Library Char := fun _ => none
    let letter := (Parser.character 'é').spanned
    let mark := (Parser.character '!').spanned
    let start := Reader.advance 1 (TextReader.ofString "aé!")
    let elements := Reader.advance 1 (SliceReader.ofArray #['a', 'é', '!'])
    let read : Value := .tuple [.char 'é', .span ⟨1, 3⟩]
    let both : Value := Value.pair read (.tuple [.char '!', .span ⟨3, 4⟩])
    let element : Value := .tuple [.char 'é', .span ⟨1, 2⟩]
    ({} : Store).Answers library .part letter start (.success read (Reader.advance 1 start)) ∧
      (∃ v span text, read = .tuple [v, .span span] ∧ span.slice? "aé!" = some text ∧
        text ++ "!" = "é!") ∧
      ({} : Store).Answers library .part (.sequence Value.pair letter mark) start
        (.success both (Reader.advance 2 start)) ∧
      (∃ v w front back text text',
        both = Value.pair (.tuple [v, .span front]) (.tuple [w, .span back]) ∧
          (Span.mk front.start back.stop).slice? "aé!" = some (text ++ text')) ∧
      ({} : Store).Answers library .part letter elements
        (.success element (Reader.advance 1 elements)) ∧
      ∃ v span, element = .tuple [v, .span span] ∧
        (#['a', 'é', '!'].extract span.start span.stop).toList ++ ['!'] = ['é', '!'] := by
  intro library letter mark start elements read both element
  obtain ⟨text, texts, slice⟩ := spans_cut_out_consumed {} .part
  have one : ({} : Store).Answers library .part letter start
      (.success read (Reader.advance 1 start)) := ⟨20, _, _, rfl, rfl⟩
  have two : ({} : Store).Answers library .part (.sequence Value.pair letter mark) start
      (.success both (Reader.advance 2 start)) := ⟨40, _, _, rfl, rfl⟩
  have among : ({} : Store).Answers library .part letter elements
      (.success element (Reader.advance 1 elements)) := ⟨20, _, _, rfl, rfl⟩
  obtain ⟨v, span, t, hread, -, -, -, -, -, -, cut, rest⟩ := text library _ start _ _ one
  obtain ⟨v₁, v₂, front, back, t₁, t₂, hboth, -, -, -, -, -, whole⟩ :=
    texts library _ _ _ start _ _ two
  obtain ⟨v', span', helement, -, -, -, -, -, -, covered⟩ := slice Char library _ elements _ _ among
  exact ⟨one, ⟨v, span, t, hread, cut, rest⟩, two, ⟨v₁, v₂, front, back, t₁, t₂, hboth, whole⟩, among,
    v', span', helement, covered⟩

end SafeDescent
