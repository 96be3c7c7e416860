import SafeDescent.Parser.Text
import SafeDescent.Proofs.Parser.LookaheadTests
import SafeDescent.Reader.Text

namespace SafeDescent

variable {ρ ε : Type} [Reader ρ ε] [Element ε] [DecidableEq ε]

section

variable {store : Store} {library : Library ε} {extent : Extent} {parser first second : Parser ε}
  {input : ρ}

/-- What succeeds with one value and only where it starts is accepted there, if the input ends there or
does not have to be read. -/
theorem Store.accepts_iff {value : Value} {P : Prop}
    (h : ∀ v r, parser.Yields library input (.success v r) ↔ P ∧ v = value ∧ r = input) :
    store.Accepts library extent parser input ↔
      P ∧ (extent = .whole → Reader.atEnd input = true) := by
  simp only [Accepts, answers_success_iff, h]
  constructor
  · rintro ⟨_, _, ⟨holds, rfl, rfl⟩, atEnd⟩
    exact ⟨holds, atEnd⟩
  · rintro ⟨holds, atEnd⟩
    exact ⟨_, _, ⟨holds, rfl, rfl⟩, atEnd⟩

theorem Store.accepts_guard_iff : store.Accepts library extent parser.guard input ↔
    parser.Succeeds library input ∧ (extent = .whole → Reader.atEnd input = true) :=
  accepts_iff fun _ _ => Parser.yields_guard_success_iff

theorem Store.accepts_negate_iff : store.Accepts library extent parser.negate input ↔
    parser.Stops library input ∧ (extent = .whole → Reader.atEnd input = true) :=
  accepts_iff fun _ _ => Parser.yields_negate_success_iff

theorem Store.accepts_seq_guard_iff :
    store.Accepts library extent (.seq first.guard second.guard) input ↔
      (first.Succeeds library input ∧ second.Succeeds library input) ∧
        (extent = .whole → Reader.atEnd input = true) :=
  accepts_iff fun _ _ => Parser.yields_seq_guard_success_iff

theorem Store.accepts_seq_negate_iff :
    store.Accepts library extent (.seq first.negate second.negate) input ↔
      (first.Stops library input ∧ second.Stops library input) ∧
        (extent = .whole → Reader.atEnd input = true) :=
  accepts_iff fun _ _ => Parser.yields_seq_negate_success_iff

end

/-- Lookahead only tests the input. It ends where it starts. A positive lookahead before a parser leaves
what that one gives, or reports at the start how its own parser stopped. Two of them can change places,
and a second negation undoes the first one. Neither of two alternatives matches where the one does not and
the other does not, as long as the first one has no error there. -/
theorem lookahead_tests_input {ρ ε : Type} [Reader ρ ε] [Element ε] [DecidableEq ε]
    (library : Library ε) (first second : Parser ε) (input : ρ) (store store' : Store) (kept : Bool)
    (path path' : List Nat) :
    (∀ extent outcome, store.Answers library extent (first.guard.place kept path) input outcome →
      outcome.remaining = input) ∧
    (∀ extent outcome, store.Answers library extent (first.negate.place kept path) input outcome →
      outcome.remaining = input) ∧
    (store.Accepts library .part (first.place kept path) input →
      Parser.Agree library ((Parser.keepRight first.guard second).place kept path')
        (second.place kept path) input) ∧
    (∀ message r, store.Answers library .part (first.place kept path) input (.failure message r) →
      ∀ outcome, store'.Answers library .part
          ((Parser.keepRight first.guard second).place kept path') input outcome ↔
        outcome = .failure message input) ∧
    (∀ message r, store.Answers library .part (first.place kept path) input (.error message r) →
      ∀ outcome, store'.Answers library .part
          ((Parser.keepRight first.guard second).place kept path') input outcome ↔
        outcome = .error message input) ∧
    (∀ extent, store.Accepts library extent
        ((Parser.seq first.guard second.guard).place kept path) input ↔
      store'.Accepts library extent ((Parser.seq second.guard first.guard).place kept path') input) ∧
    (∀ extent, store.Accepts library extent (first.negate.negate.place kept path) input ↔
      store'.Accepts library extent (first.guard.place kept path') input) ∧
    Parser.Agree library (first.negate.negate.negate.place kept path) (first.negate.place kept path')
      input ∧
    Parser.Agree library (first.guard.guard.place kept path) (first.guard.place kept path') input ∧
    ((∀ message r, ¬ store.Answers library .part (first.place kept path) input (.error message r)) →
      ∀ extent, store.Accepts library extent
          ((Parser.choice first second).negate.place kept path) input ↔
        store'.Accepts library extent
          ((Parser.seq first.negate second.negate).place kept path') input) := by
  simp only [Store.answers_part_iff_yields]
  refine ⟨?_, ?_, ?_, ?_, ?_, ?_, ?_, ?_, ?_, ?_⟩
  · intro extent outcome answers
    obtain ⟨ended, yields, rfl⟩ := Store.answers_iff_yields.mp answers
    rw [extent.remaining_finish]
    exact Parser.Yields.remaining_guard yields
  · intro extent outcome answers
    obtain ⟨ended, yields, rfl⟩ := Store.answers_iff_yields.mp answers
    rw [extent.remaining_finish]
    exact Parser.Yields.remaining_negate yields
  · intro accepts
    refine Parser.agree_of_yields fun outcome => ?_
    obtain ⟨value, r, yields⟩ := accepts
    have passes := (Parser.yields_place_iff (0 :: 0 :: path')).mp (Store.answers_part_iff_yields.mp yields)
    exact (Parser.yields_keepRight_guard_of_succeeds ⟨value, r, passes⟩).trans
      (Parser.yields_place_iff path)
  · intro message r yields outcome
    have stops := (Parser.yields_place_iff (0 :: 0 :: path')).mp yields
    exact Parser.yields_keepRight_guard_of_stopped stops rfl
  · intro message r yields outcome
    have stops := (Parser.yields_place_iff (0 :: 0 :: path')).mp yields
    exact Parser.yields_keepRight_guard_of_stopped stops rfl
  · intro extent
    have one : (first.place kept (0 :: 0 :: path)).Succeeds library input ↔
        (first.place kept (0 :: 1 :: path')).Succeeds library input := Parser.succeeds_place_iff _
    have two : (second.place kept (0 :: 1 :: path)).Succeeds library input ↔
        (second.place kept (0 :: 0 :: path')).Succeeds library input := Parser.succeeds_place_iff _
    have swapped := and_comm.trans (and_congr two one)
    exact Store.accepts_seq_guard_iff.trans
      ((and_congr_left' swapped).trans Store.accepts_seq_guard_iff.symm)
  · intro extent
    have same : (first.negate.place kept (0 :: path)).Stops library input ↔
        (first.place kept (0 :: path')).Succeeds library input :=
      Parser.stops_negate_iff.trans (Parser.succeeds_place_iff _)
    exact Store.accepts_negate_iff.trans ((and_congr_left' same).trans Store.accepts_guard_iff.symm)
  · refine Parser.agree_of_yields fun outcome => ?_
    have moved : (first.negate.place kept (0 :: 0 :: path)).Yields library input outcome ↔
        (first.negate.place kept path').Yields library input outcome := Parser.yields_place_iff _
    exact Parser.yields_negate_negate_negate_iff.trans moved
  · refine Parser.agree_of_yields fun outcome => ?_
    have moved : (first.guard.place kept (0 :: path)).Yields library input outcome ↔
        (first.guard.place kept path').Yields library input outcome := Parser.yields_place_iff _
    exact Parser.yields_guard_guard_iff.trans moved
  · intro calm extent
    have calm' (message : String) (r : ρ) :
        ¬ (first.place kept (0 :: 0 :: path)).Yields library input (.error message r) := fun yields =>
      calm message r ((Parser.yields_place_iff _).mp yields)
    have one : (first.place kept (0 :: 0 :: path)).Stops library input ↔
        (first.place kept (0 :: 0 :: path')).Stops library input := Parser.stops_place_iff _
    have two : (second.place kept (1 :: 0 :: path)).Stops library input ↔
        (second.place kept (0 :: 1 :: path')).Stops library input := Parser.stops_place_iff _
    have neither := (Parser.stops_choice_iff calm').trans (and_congr one two)
    exact Store.accepts_negate_iff.trans
      ((and_congr_left' neither).trans Store.accepts_seq_negate_iff.symm)

/-- Two words with a common letter, ahead of a bracket. The first one is there in one input, fails in
another, and has an error where it is committed. -/
theorem lookahead_tests_input_words :
    let library : Library Char := fun _ => none
    let word : Parser Char := .literal "if"
    let other : Parser Char := .literal "in"
    let there := TextReader.ofString "if("
    let missing := TextReader.ofString "in("
    ({} : Store).Accepts library .part (word.place true [0]) there ∧
      ({} : Store).Answers library .part ((Parser.keepRight word.guard .any).place true [1]) there
        (.success (.char 'i') (Reader.advance 1 there)) ∧
      ({} : Store).Answers library .part (word.place true [0]) missing
        (.failure "expected 'f', found 'n' while matching 'if'" (Reader.advance 1 missing)) ∧
      ({} : Store).Answers library .part ((Parser.keepRight word.guard .any).place true [1]) missing
        (.failure "expected 'f', found 'n' while matching 'if'" missing) ∧
      ({} : Store).Answers library .part (word.commit.place true [0]) missing
        (.error "expected 'f', found 'n' while matching 'if'" (Reader.advance 1 missing)) ∧
      ({} : Store).Answers library .part ((Parser.keepRight word.commit.guard .any).place true [1])
        missing (.error "expected 'f', found 'n' while matching 'if'" missing) ∧
      (∀ message r, ¬ ({} : Store).Answers library .part (word.place true [0]) missing
        (.error message r)) ∧
      ¬ ({} : Store).Accepts library .part ((Parser.seq word.negate other.negate).place true [1])
        missing := by
  intro library word other there missing
  have accepts : ({} : Store).Accepts library .part (word.place true [0]) there :=
    ⟨.text "if", Reader.advance 2 there, 20, _, _, rfl, rfl⟩
  have next : ({} : Store).Answers library .part ((Parser.any : Parser Char).place true [0]) there
      (.success (.char 'i') (Reader.advance 1 there)) := ⟨20, _, _, rfl, rfl⟩
  have fails : ({} : Store).Answers library .part (word.place true [0]) missing
      (.failure "expected 'f', found 'n' while matching 'if'" (Reader.advance 1 missing)) :=
    ⟨20, _, _, rfl, rfl⟩
  have stops : ({} : Store).Answers library .part (word.commit.place true [0]) missing
      (.error "expected 'f', found 'n' while matching 'if'" (Reader.advance 1 missing)) :=
    ⟨20, _, _, rfl, rfl⟩
  have calm : ∀ message r, ¬ ({} : Store).Answers library .part (word.place true [0]) missing
      (.error message r) := by
    intro message r error
    cases error.unique fails
  obtain ⟨-, -, passes, -⟩ := lookahead_tests_input library word .any there {} {} true [0] [1]
  obtain ⟨-, -, -, reports, -⟩ := lookahead_tests_input library word .any missing {} {} true [0] [1]
  obtain ⟨-, -, -, -, aborts, -⟩ :=
    lookahead_tests_input library word.commit .any missing {} {} true [0] [1]
  obtain ⟨-, -, -, -, -, -, -, -, -, neither⟩ :=
    lookahead_tests_input library word other missing {} {} true [0] [1]
  refine ⟨accepts, (passes accepts .part {} {} _).mpr next, fails, (reports _ _ fails _).mpr rfl, stops,
    (aborts _ _ stops _).mpr rfl, calm, fun both => ?_⟩
  obtain ⟨value, r, answers⟩ := (neither calm .part).mpr both
  have matched : ({} : Store).Answers library .part ((Parser.choice word other).negate.place true [0])
      missing (.failure "negative lookahead failed: unexpected match" missing) :=
    ⟨40, _, _, rfl, rfl⟩
  cases answers.unique matched

end SafeDescent
