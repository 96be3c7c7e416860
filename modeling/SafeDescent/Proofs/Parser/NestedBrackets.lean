import SafeDescent.Proofs.Parser.BracketedTexts
import SafeDescent.Proofs.Parser.Literals
import SafeDescent.Proofs.Reader.Walking

namespace SafeDescent

open List (replicate)

namespace Parser

/-- A pair of brackets around the same again, or nothing. The value is the text that was read. -/
def nestedBrackets (self : String) : Parser Char :=
  .choice (.map Value.asText (.tuple (.character '(') (.reference (.binder self)) [.character ')']))
    (.succeed (.text ""))

theorem unfold_nestedBrackets (site : Site) (self : String) :
    unfold site self (nestedBrackets self) =
      .choice (.map Value.asText (.tuple (.character '(')
        (.handle site self (nestedBrackets self)) [.character ')'])) (.succeed (.text "")) := by
  simp [unfold, nestedBrackets, tuple, seq, map, character, element, satisfy, succeed, substitute, only]

variable {ρ : Type} [Reader ρ Char] {library : Library Char} {site : Site} {self : String}
  {r middle : ρ} {inner : String}

/-- What is a failure inside is no text at all. -/
theorem yields_nestedBrackets_of_failure {message : String} {stopped : ρ}
    (h : (Parser.tuple (.character '(') (.handle site self (nestedBrackets self))
      [.character ')']).Yields library r (.failure message stopped)) :
    (Parser.fixpoint site self (nestedBrackets self)).Yields library r (.success (.text "") r) := by
  rw [yields_fixpoint_iff, unfold_nestedBrackets]
  have fails : (Parser.map Value.asText (.tuple (.character '(')
      (.handle site self (nestedBrackets self)) [.character ')'])).Yields library r
        (.failure message stopped) := (yields_adjust_of_yields h).mpr rfl
  exact (yields_choice_of_failure fails).mpr ⟨_, yields_primitive_iff.mpr rfl, rfl⟩

theorem yields_nestedBrackets_of_unopened (unopened : Reader.first r ≠ some '(') :
    (Parser.fixpoint site self (nestedBrackets self)).Yields library r (.success (.text "") r) := by
  have missing : (Parser.character '(').Yields library r _ := yields_element_of_ne unopened
  have pair : (Parser.sequence Value.pair (.character '(')
      (.handle site self (nestedBrackets self))).Yields library r _ :=
    (yields_sequence_of_stopped missing rfl).mpr rfl
  exact yields_nestedBrackets_of_failure ((yields_sequence_of_stopped pair rfl).mpr rfl)

/-- An opening bracket and what is nested behind it. -/
theorem yields_opened (kept : site.kept = true) (opens : Reader.first r = some '(')
    (inside : (Parser.fixpoint site self (nestedBrackets self)).Yields library (Reader.rest r)
      (.success (.text inner) middle)) :
    (Parser.sequence Value.pair (.character '(') (.handle site self (nestedBrackets self))).Yields
      library r (.success (.tuple [.char '(', .text inner]) middle) := by
  have opening : (Parser.character '(').Yields library r (.success (.char '(') (Reader.rest r)) :=
    yields_element_of_first opens
  have handle := (yields_handle_iff kept).mpr inside
  exact yields_sequence_success_iff.mpr ⟨_, _, _, opening, handle, rfl⟩

theorem yields_nestedBrackets_of_unclosed (kept : site.kept = true)
    (opens : Reader.first r = some '(')
    (inside : (Parser.fixpoint site self (nestedBrackets self)).Yields library (Reader.rest r)
      (.success (.text inner) middle)) (unclosed : Reader.first middle ≠ some ')') :
    (Parser.fixpoint site self (nestedBrackets self)).Yields library r (.success (.text "") r) := by
  have opened := yields_opened kept opens inside
  have missing : (Parser.character ')').Yields library middle _ := yields_element_of_ne unclosed
  exact yields_nestedBrackets_of_failure
    ((yields_sequence_of_success opened).mpr ⟨_, missing, rfl⟩)

theorem yields_nestedBrackets_of_closed (kept : site.kept = true)
    (opens : Reader.first r = some '(')
    (inside : (Parser.fixpoint site self (nestedBrackets self)).Yields library (Reader.rest r)
      (.success (.text inner) middle)) (closes : Reader.first middle = some ')') :
    (Parser.fixpoint site self (nestedBrackets self)).Yields library r
      (.success (Value.asText (.tuple [.char '(', .text inner, .char ')'])) (Reader.rest middle)) := by
  have opened := yields_opened kept opens inside
  have closing : (Parser.character ')').Yields library middle
      (.success (.char ')') (Reader.rest middle)) := yields_element_of_first closes
  have pair : (Parser.tuple (.character '(') (.handle site self (nestedBrackets self))
      [.character ')']).Yields library r
        (.success (.tuple [.char '(', .text inner, .char ')']) (Reader.rest middle)) :=
    yields_sequence_success_iff.mpr ⟨_, _, _, opened, closing, rfl⟩
  have joined : (Parser.map Value.asText (.tuple (.character '(')
      (.handle site self (nestedBrackets self)) [.character ')'])).Yields library r
        (.success (Value.asText (.tuple [.char '(', .text inner, .char ')'])) (Reader.rest middle)) :=
    (yields_adjust_of_yields pair).mpr rfl
  rw [yields_fixpoint_iff, unfold_nestedBrackets]
  exact (yields_choice_of_settled joined (by simp)).mpr rfl

variable [LawfulReader ρ Char]

open LawfulReader (ahead)

/-- Nested brackets are read as deep as all that are opened are closed again. Where one is missing,
every level falls back to nothing, from the inside to the outside. -/
theorem yields_nestedBrackets (kept : site.kept = true) {opened closed : Nat} {rest : List Char}
    (h : Bracketed (ahead r) opened closed rest) :
    (Parser.fixpoint site self (nestedBrackets self)).Yields library r
      (.success (.text (nestedText (nestedDepth opened closed)))
        (Reader.advance (2 * nestedDepth opened closed) r)) := by
  induction opened generalizing r with
  | zero =>
    have unopened : Reader.first r ≠ some '(' := by
      rw [LawfulReader.first_eq]
      exact h.unopened
    have none : nestedDepth 0 closed = 0 := if_pos (Nat.zero_le closed)
    rw [none]
    exact yields_nestedBrackets_of_unopened unopened
  | succ opened ih =>
    have opens : Reader.first r = some '(' := by rw [LawfulReader.first_eq, h.head_eq]
    have tail : Bracketed (ahead (Reader.rest r)) opened closed rest := by
      rw [LawfulReader.ahead_rest]
      exact h.tail
    have inside := ih tail
    have closes := tail.closes_iff
    rw [← Reader.first_advance] at closes
    by_cases more : opened < closed
    · have all : nestedDepth opened closed = opened := if_pos (by omega)
      have all' : nestedDepth (opened + 1) closed = opened + 1 := if_pos more
      rw [all] at inside closes
      have joined := yields_nestedBrackets_of_closed kept opens inside (closes.mpr more)
      have further : 2 * (opened + 1) = 2 * opened + 1 + 1 := by omega
      rw [asText_nestedText, Reader.rest_advance] at joined
      rw [all', further]
      exact joined
    · have none : nestedDepth (opened + 1) closed = 0 := if_neg more
      rw [none]
      exact yields_nestedBrackets_of_unclosed kept opens inside fun found => more (closes.mp found)

end Parser

/-- A recursive definition of nested brackets reads those at the beginning of a text that are closed
again, if all that are opened are, and otherwise nothing. It never fails. A whole text is read exactly
if it is nested brackets, and then it is the value. -/
theorem nested_brackets_recognised (store : Store) (library : Library Char) (self : String)
    (path : List Nat) (s : String) :
    (∃ opened closed rest, Bracketed s.toList opened closed rest ∧
      (∀ opened' closed' rest', Bracketed s.toList opened' closed' rest' →
        opened' = opened ∧ closed' = closed ∧ rest' = rest) ∧
      ∃ r : TextReader, r = Reader.advance (2 * nestedDepth opened closed) (.ofString s) ∧
        r.offset = 2 * nestedDepth opened closed ∧
        ∀ outcome, store.Answers library .part
            ((Parser.recursive self (.nestedBrackets self)).place true path) (.ofString s) outcome ↔
          outcome = .success (.text (nestedText (nestedDepth opened closed))) r) ∧
    ∀ (value : Value) (r : TextReader), store.Answers library .whole
        ((Parser.recursive self (.nestedBrackets self)).place true path) (.ofString s)
        (.success value r) ↔
      ∃ depth, s = nestedText depth ∧ value = .text s ∧
        r = Reader.advance (2 * depth) (.ofString s) := by
  obtain ⟨opened, closed, rest, h⟩ := Bracketed.exists_bracketed s.toList
  have yields : ((Parser.recursive self (.nestedBrackets self)).place true path).Yields library
      (TextReader.ofString s) _ := Parser.yields_nestedBrackets rfl h
  have stands := TextReader.divides_advance s (2 * nestedDepth opened closed)
  rw [h.take_nestedDepth, String.ofList_toList] at stands
  constructor
  · refine ⟨opened, closed, rest, h, fun _ _ _ => h.unique, _, rfl, ?_, fun outcome => ?_⟩
    · rw [stands.offset, utf8ByteSize_nestedText]
    · rw [Store.answers_part_iff_yields]
      constructor
      · exact fun yields' => yields'.unique yields
      · rintro rfl
        exact yields
  · intro value r
    rw [Store.answers_success_iff]
    constructor
    · rintro ⟨yields', ends⟩
      obtain ⟨rfl, rfl⟩ := Outcome.success.inj (yields'.unique yields)
      have unread := stands.first
      rw [Option.isNone_iff_eq_none.mp (ends rfl)] at unread
      have whole : s = nestedText (nestedDepth opened closed) := by
        have joined := stands.joined
        rw [String.toList_eq_nil_iff.mp (List.head?_eq_none_iff.mp unread.symm),
          String.append_empty] at joined
        exact joined.symm
      exact ⟨_, whole, congrArg Value.text whole.symm, rfl⟩
    · rintro ⟨depth, rfl, rfl, rfl⟩
      obtain ⟨rfl, rfl, -⟩ := h.unique (bracketed_nestedText depth)
      rw [nestedDepth_self] at yields stands
      have unread := congrArg String.utf8ByteSize stands.joined
      rw [String.utf8ByteSize_append, Nat.add_eq_left, String.utf8ByteSize_eq_zero_iff] at unread
      refine ⟨yields, fun _ => ?_⟩
      rw [Reader.atEnd, stands.first, unread]
      rfl

end SafeDescent
