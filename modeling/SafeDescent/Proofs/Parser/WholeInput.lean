import SafeDescent.Parser.Text
import SafeDescent.Proofs.Parser.ChoiceRules
import SafeDescent.Proofs.Parser.Steps

namespace SafeDescent

/-- The records of the level at which a parse that stopped is noted. -/
def debugRecords (records : List Record) : List Record := records.filter (·.level = "DEBUG")

theorem debugRecords_cons {record : Record} (records : List Record) (other : record.level ≠ "DEBUG") :
    debugRecords (record :: records) = debugRecords records :=
  List.filter_cons_of_neg (by simpa using other)

variable {ρ ε : Type} [Reader ρ ε]

/-- What a parse of the whole input notes about how it ended. -/
def Outcome.stopRecords {α : Type} : Outcome ρ α → List Record
  | .success _ _ => []
  | .failure message r | .error message r => [.parseAllStopped (Reader.offset r) message]

variable [Element ε] [DecidableEq ε]

namespace Parser

variable {library : Library ε} {parser : Parser ε} {input : ρ}
  {ended outcome : Outcome ρ Value}

theorem yields_phrase_iff :
    parser.phrase.Yields library input outcome ↔
      ∃ ended, parser.Yields library input ended ∧ ended.requireEnd = outcome := by
  rw [phrase, yields_adjust_iff]
  simp only [Adjustment.apply, eq_comm]

theorem yields_phrase_phrase_iff :
    parser.phrase.phrase.Yields library input outcome ↔ parser.phrase.Yields library input outcome :=
  yields_adjust_adjust_iff fun ended => ended.requireEnd_requireEnd

theorem map_run_endOfInput (value : Value) (r : ρ) :
    ((Primitive.endOfInput : Primitive ε).run r).map (fun _ => value) =
      (Outcome.success value r).requireEnd := by
  simp only [Primitive.run, Outcome.requireEnd]
  split <;> rfl

theorem yields_keepLeft_endOfInput_of_yields (h : parser.Yields library input ended) :
    (keepLeft parser .endOfInput).Yields library input outcome ↔ outcome = ended.requireEnd := by
  cases ended with
  | success value r =>
    have ends : (endOfInput : Parser ε).Yields library r (Primitive.endOfInput.run r) :=
      yields_primitive_iff.mpr rfl
    rw [keepLeft, yields_sequence_of_success h, ← map_run_endOfInput]
    constructor
    · rintro ⟨other, yields, rfl⟩
      rw [yields.unique ends]
    · rintro rfl
      exact ⟨_, ends, rfl⟩
  | failure message r => exact yields_sequence_of_stopped h rfl
  | error message r => exact yields_sequence_of_stopped h rfl

/-- The end of the input can be required by a parser of its own. -/
theorem yields_keepLeft_endOfInput_iff :
    (keepLeft parser .endOfInput).Yields library input outcome ↔
      ∃ ended, parser.Yields library input ended ∧ ended.requireEnd = outcome := by
  constructor
  · intro h
    obtain ⟨ended, yields⟩ := h.sequence_first
    exact ⟨ended, yields, ((yields_keepLeft_endOfInput_of_yields yields).mp h).symm⟩
  · rintro ⟨ended, yields, rfl⟩
    exact (yields_keepLeft_endOfInput_of_yields yields).mpr rfl

/-- A parser may be left out, or nothing may be read as an alternative to it. -/
theorem yields_optional_iff_choice :
    parser.optional.Yields library input outcome ↔
      (Parser.choice (parser.map Value.some) (.succeed .none)).Yields library input outcome := by
  refine yields_iff_of_first parser input (fun h => ?_) (fun h => ?_) fun head hfirst => ?_
  · obtain ⟨head, yields, -⟩ := yields_adjust_iff.mp h
    exact ⟨head, yields⟩
  · obtain ⟨mapped, h⟩ := h.choice_first
    obtain ⟨head, yields, -⟩ := yields_adjust_iff.mp h
    exact ⟨head, yields⟩
  have left : parser.optional.Yields library input outcome ↔
      outcome = Adjustment.optional.apply input head := yields_adjust_of_yields hfirst
  have mapped : (parser.map Value.some).Yields library input (head.map Value.some) :=
    (yields_adjust_of_yields hfirst).mpr rfl
  rw [left]
  cases head with
  | success value r => exact (yields_choice_of_settled mapped (by simp [Outcome.map])).symm
  | error message r => exact (yields_choice_of_settled mapped (by simp [Outcome.map])).symm
  | failure message stopped =>
    have nothing : (Parser.succeed .none : Parser ε).Yields library input (.success .none input) :=
      yields_primitive_iff.mpr rfl
    rw [yields_choice_of_failure mapped]
    constructor
    · rintro rfl
      exact ⟨_, nothing, rfl⟩
    · rintro ⟨other, yields, rfl⟩
      rw [yields.unique nothing]
      rfl

theorem not_yields_optional_failure {message : String} {r : ρ} :
    ¬ parser.optional.Yields library input (.failure message r) := by
  intro h
  obtain ⟨ended, -, fails⟩ := yields_adjust_iff.mp h
  cases ended <;> cases fails

theorem yields_optional_error_iff {message : String} {r : ρ} :
    parser.optional.Yields library input (.error message r) ↔
      parser.Yields library input (.error message r) := by
  constructor
  · intro h
    obtain ⟨ended, yields, fails⟩ := yields_adjust_iff.mp h
    cases ended with
    | success value r' => cases fails
    | failure message' r' => cases fails
    | error message' r' =>
      obtain ⟨rfl, rfl⟩ := Outcome.error.inj fails
      exact yields
  · intro yields
    exact (yields_adjust_of_yields yields).mpr rfl

end Parser

variable {library : Library ε} {parser : Parser ε} {input : ρ}

/-- No step of a run is noted at the level of a parse that stopped. -/
theorem Parser.Runs.debugRecords_eq {store last : Store} {starts : List (Start ρ ε)}
    {outcome : Outcome ρ Value} (h : parser.Runs library input store starts outcome last) :
    debugRecords last.records = debugRecords store.records := by
  have tracks : (parsing library : Engine (Start ρ ε) (Frame ρ ε) (Outcome ρ Value) Store).Tracks
      fun _ now => debugRecords now.records = debugRecords store.records := by
    refine parsing_tracks_records library (debugRecords · = debugRecords store.records) ?_ ?_
    · intro records same
      rw [debugRecords_cons records (by simp [Record.level]), same]
    · intro offset records same
      rw [debugRecords_cons records (by simp [Record.level]), same]
  exact tracks.evaluates [] rfl (Parser.runs_iff_evaluates.mp h)

omit [DecidableEq ε] in
theorem Extent.close_records (ended : Outcome ρ Value) (store : Store) :
    (Extent.whole.close ended store).records =
      (Extent.whole.finish ended).stopRecords ++ store.records := by
  unfold Extent.close
  cases Extent.whole.finish ended <;> rfl

/-- A parse of the whole input notes how it stopped, once, and nothing where it did not. -/
theorem Store.debugRecords_parse {store last : Store} {fuel : Nat} {report : Report ρ}
    (h : store.parse library fuel .whole parser input = some (report, last)) :
    debugRecords report.records = report.outcome.stopRecords := by
  obtain ⟨starts, ended, state, runs, finish, rfl, records⟩ := Store.parse_runs h
  have quiet : state.records.filter (·.level = "DEBUG") = [] := runs.debugRecords_eq
  have noted (outcome : Outcome ρ Value) :
      debugRecords outcome.stopRecords.reverse = outcome.stopRecords := by
    cases outcome <;> rfl
  rw [finish, records, Extent.close_records, List.reverse_append, debugRecords, List.filter_append,
    List.filter_reverse, quiet, List.reverse_nil, List.nil_append]
  exact noted _

/-- The ways to require that a parser reads the whole input agree: a parse of the whole input, a phrase,
and the end of the input as a parser behind it. It makes no difference to require it twice. Only a parse
of the whole input that does not succeed is noted, once, with the place and the message of its outcome,
and one that succeeds stands at the end. A parser that may be left out answers like the parser with
nothing as an alternative: it never fails, and the errors of the parser stay. -/
theorem whole_input_agrees {ε : Type} [Element ε] [DecidableEq ε] (library : Library ε)
    (parser : Parser ε) (kept : Bool) (path path' : List Nat) :
    (∀ (ρ : Type) [Reader ρ ε] (input : ρ) (store store' : Store) (outcome : Outcome ρ Value),
      (store.Answers library .whole (parser.place kept path) input outcome ↔
        store'.Answers library .part (parser.phrase.place kept path') input outcome) ∧
      (store.Answers library .whole (parser.place kept path) input outcome ↔
        store'.Answers library .part ((Parser.keepLeft parser .endOfInput).place kept path') input
          outcome)) ∧
    Parser.Equivalent library (parser.phrase.phrase.place kept path)
      (parser.phrase.place kept path') ∧
    (∀ (ρ : Type) [Reader ρ ε] (input : ρ) (store last : Store) (fuel : Nat) (report : Report ρ),
      store.parse library fuel .whole (parser.place kept path) input = some (report, last) →
        debugRecords report.records = report.outcome.stopRecords ∧
          (report.outcome.isSuccess = true → Reader.atEnd report.outcome.remaining = true)) ∧
    Parser.Equivalent library (parser.optional.place kept path)
      ((Parser.choice (parser.map Value.some) (.succeed .none)).place kept path') ∧
    ∀ (ρ : Type) [Reader ρ ε] (input : ρ) (store store' : Store) (message : String) (r : ρ),
      ¬ store.Answers library .part (parser.optional.place kept path) input (.failure message r) ∧
        (store.Answers library .part (parser.optional.place kept path) input (.error message r) ↔
          store'.Answers library .part (parser.place kept path') input (.error message r)) := by
  have moved {ρ : Type} [Reader ρ ε] (input : ρ) (here there : List Nat) (outcome : Outcome ρ Value) :
      (∃ ended, (parser.place kept here).Yields library input ended ∧ ended.requireEnd = outcome) ↔
        ∃ ended, (parser.place kept there).Yields library input ended ∧ ended.requireEnd = outcome :=
    exists_congr fun _ => and_congr_left' (Parser.yields_place_iff there)
  refine ⟨?_, ?_, ?_, ?_, ?_⟩
  · intro ρ _ input store store' outcome
    rw [Store.answers_iff_yields, Store.answers_part_iff_yields, Store.answers_part_iff_yields]
    constructor
    · exact (moved input path (0 :: path') outcome).trans Parser.yields_phrase_iff.symm
    · exact (moved input path (0 :: path') outcome).trans Parser.yields_keepLeft_endOfInput_iff.symm
  · intro ρ _ input
    refine Parser.agree_of_yields fun outcome => ?_
    have once : (parser.phrase.place kept (0 :: path)).Yields library input outcome ↔
        (parser.phrase.place kept path').Yields library input outcome := Parser.yields_place_iff _
    exact Parser.yields_phrase_phrase_iff.trans once
  · intro ρ _ input store last fuel report parsed
    refine ⟨Store.debugRecords_parse parsed, fun succeeds => ?_⟩
    have answers : store.Answers library .whole (parser.place kept path) input report.outcome :=
      ⟨fuel, report, last, parsed, rfl⟩
    cases ended : report.outcome with
    | success value r =>
      rw [ended] at answers
      exact (Store.answers_success_iff.mp answers).2 rfl
    | failure message r =>
      rw [ended] at succeeds
      cases succeeds
    | error message r =>
      rw [ended] at succeeds
      cases succeeds
  · intro ρ _ input
    refine Parser.agree_of_yields fun outcome => ?_
    have there : (parser.optional.place kept path).Yields library input outcome ↔
        (parser.optional.place kept (0 :: path')).Yields library input outcome :=
      Parser.yields_place_iff _
    exact there.trans Parser.yields_optional_iff_choice
  · intro ρ _ input store store' message r
    rw [Store.answers_part_iff_yields, Store.answers_part_iff_yields, Store.answers_part_iff_yields]
    have there : (parser.place kept (0 :: path)).Yields library input (.error message r) ↔
        (parser.place kept path').Yields library input (.error message r) := Parser.yields_place_iff _
    exact ⟨Parser.not_yields_optional_failure, Parser.yields_optional_error_iff.trans there⟩

/-- A word with a bracket left over behind it. -/
theorem whole_input_agrees_leftover :
    let library : Library Char := fun _ => none
    let word : Parser Char := .literal "if"
    let start := TextReader.ofString "if("
    let stopped := Reader.advance 2 start
    let message := "expected end of input, found " ++ Element.shown '('
    ({} : Store).Answers library .part (word.phrase.place true [1]) start
        (.failure message stopped) ∧
      ({} : Store).Answers library .part ((Parser.keepLeft word .endOfInput).place true [1]) start
        (.failure message stopped) ∧
      ∃ report last, ({} : Store).parse library 20 .whole (word.place true [0]) start =
          some (report, last) ∧
        debugRecords report.records = [.parseAllStopped 2 message] := by
  intro library word start stopped message
  have whole : ({} : Store).Answers library .whole (word.place true [0]) start
      (.failure message stopped) := ⟨20, _, _, rfl, rfl⟩
  obtain ⟨agree, -, noted, -⟩ := whole_input_agrees library word true [0] [1]
  have same := agree TextReader start {} {} (.failure message stopped)
  refine ⟨same.1.mp whole, same.2.mp whole, ?_⟩
  obtain ⟨report, last, parsed, outcome⟩ : ∃ report last,
      ({} : Store).parse library 20 .whole (word.place true [0]) start = some (report, last) ∧
        report.outcome = .failure message stopped := ⟨_, _, rfl, rfl⟩
  have records := (noted TextReader start {} last 20 report parsed).1
  rw [outcome] at records
  exact ⟨report, last, parsed, records⟩

end SafeDescent
