import SafeDescent.Parser.Text
import SafeDescent.Proofs.Parser.Equivalence
import SafeDescent.Proofs.Parser.Faults
import SafeDescent.Proofs.Parser.RelayedErrors
import SafeDescent.Reader.Text

namespace SafeDescent

variable {ρ ε : Type}

/-- No primitive parser and no adjustment makes an error. -/
def Parser.Lenient (parser : Parser ε) : Prop :=
  parser.MadeOf (fun p => ∀ message, p ≠ .fatal message) (· ≠ .commit)

def Library.Lenient (library : Library ε) : Prop :=
  library.MadeOf (fun p => ∀ message, p ≠ .fatal message) (· ≠ .commit)

variable [Reader ρ ε] [Element ε] [DecidableEq ε]

variable {library : Library ε} {parser : Parser ε} {input : ρ} {store now last : Store}
  {part : Start ρ ε} {path : List (Frame ρ ε)} {before calls starts : List (Start ρ ε)}
  {message : String} {r : ρ} {outcome : Outcome ρ Value}

/-- An error goes through the frames that wait for it, and nothing is started on its way. -/
theorem parsing_relays {computation current : Run ρ ε}
    (visits : (parsing library).Visits computation store before path current now)
    (clear : ∀ frame ∈ path, frame.HandsOn)
    (ends : (parsing library).Evaluates current now calls (.error message r) last) :
    (parsing library).Evaluates computation store (before ++ calls)
      (.error (Frame.relayAll path message r).1 (Frame.relayAll path message r).2) last := by
  induction visits with
  | here computation store => exact ends
  | more _ ih => exact .more (ih clear ends)
  | @first first current frame store now before path _ ih =>
    -- The frame is the last on the path: the error reaches it after all the others.
    have inner := ih (fun other hm => clear other (List.mem_append_left _ hm)) ends
    have handed := frame.resume_error (clear frame (by simp))
      (Frame.relayAll path message r).1 (Frame.relayAll path message r).2 last
    rw [Frame.relayAll_snoc, ← List.append_nil (before ++ calls)]
    refine .flatMap inner ?_
    change (parsing library).Evaluates (frame.resume _ last).1 (frame.resume _ last).2 _ _ _
    rw [handed]
    exact .done _ _
  | second evaluates _ ih =>
    rw [List.append_assoc]
    exact .flatMap evaluates (ih clear ends)

theorem Parser.Applies.runs_error
    (h : parser.Applies library input store before path part now)
    (clear : ∀ frame ∈ path, frame.HandsOn)
    (fails : part.parser.Runs library part.input now calls (.error message r) last) :
    parser.Runs library input store (before ++ calls)
      (.error (Frame.relayAll path message r).1 (Frame.relayAll path message r).2) last :=
  Parser.runs_iff_evaluates.mpr (parsing_relays h clear (Parser.runs_iff_evaluates.mp fails))

theorem Primitive.run_lenient {p : Primitive ε} (h : ∀ message, p ≠ .fatal message) (input : ρ) :
    (p.run input).Faulty (fun _ _ => True) fun _ _ => False := by
  rcases p.run_cases input with
    ⟨value, next, run⟩ | ⟨message, -, run⟩ | ⟨message, fatal, -⟩ | ⟨reason, stopped, run, -⟩
  · rw [run]
    trivial
  · rw [run]
    trivial
  · exact (h message fatal).elim
  · rw [run]
    trivial

omit [DecidableEq ε] in
theorem Outcome.requireEnd_lenient {outcome : Outcome ρ Value}
    (h : outcome.Faulty (fun _ _ => True) fun _ _ => False) :
    outcome.requireEnd.Faulty (fun _ _ => True) fun _ _ => False := by
  cases outcome with
  | success value r =>
    simp only [Outcome.requireEnd]
    split <;> trivial
  | failure message r => trivial
  | error message r => exact h.elim

omit [DecidableEq ε] in
theorem Adjustment.faithful_of_ne_commit {adjustment : Adjustment} (h : adjustment ≠ .commit) :
    adjustment.Faithful (fun _ (_ : ρ) => True) fun _ _ => False := by
  intro start outcome faulty
  cases adjustment with
  | map f => exact faulty.map f
  | phrase => exact Outcome.requireEnd_lenient faulty
  | commit => exact (h rfl).elim
  | optional | negate | guard | failureMessage | errorMessage | spanned =>
    cases outcome <;> trivial

/-- A parse in which nothing makes errors ends with one only if a reference led nowhere. -/
theorem Parser.Lenient.not_error {fuel : Nat} {extent : Extent} {report : Report ρ}
    (hl : library.Lenient) (hp : parser.Lenient)
    (h : store.parse library fuel extent parser input = some (report, last))
    (connected : parser.Connected library report) : report.outcome ≠ .error message r := by
  obtain ⟨starts, ended, state, runs, finish, fine⟩ := connected.runs h
  have harmless (start : Start ρ ε) : start.Faulty (fun p => ∀ message, p ≠ .fatal message)
      (· ≠ .commit) (fun _ _ => True) fun _ _ => False :=
    ⟨fun p _ other => p.run_lenient other start.input,
      fun _ _ _ other => Adjustment.faithful_of_ne_commit other⟩
  have faulty := runs.faulty hl hp (fun start _ => harmless start) fine
  intro error
  rw [finish] at error
  have reported : (extent.finish ended).Faulty (fun _ _ => True) fun _ _ => False := by
    cases extent with
    | part => exact faulty
    | whole => exact Outcome.requireEnd_lenient faulty
  rw [error] at reported
  exact reported

/-- An error of a part of a parser is the end of the whole parse, unless a negative lookahead or an
earlier alternative waits for the part: nothing more is started, and only guards and messages for
errors on the way change what is reported. Errors come from parsers that are made to report them,
and from references that lead nowhere; where there are none of these, no parse ends with an error.
Whatever a parse starts is such a part: it is applied on a path from the whole parser to it. -/
theorem error_ends_parse {ρ ε : Type} [Reader ρ ε] [Element ε] [DecidableEq ε]
    (library : Library ε) (parser : Parser ε) (input : ρ) (store : Store) :
    (∀ (before calls : List (Start ρ ε)) (path : List (Frame ρ ε)) (part : Start ρ ε)
        (now last : Store) (message : String) (r : ρ),
      parser.Applies library input store.silence before path part now →
      (∀ frame ∈ path, frame.HandsOn) →
      part.parser.Runs library part.input now calls (.error message r) last →
        let relayed := Frame.relayAll path message r
        (∀ starts outcome last', parser.Runs library input store.silence starts outcome last' ↔
          starts = before ++ calls ∧ outcome = .error relayed.1 relayed.2 ∧ last' = last) ∧
        (∀ extent outcome, store.Answers library extent parser input outcome ↔
          outcome = .error relayed.1 relayed.2) ∧
        ((∀ frame ∈ path, frame.Stays) → relayed.2 = r) ∧
        ((∀ frame ∈ path, frame.Repeats) → relayed.1 = message)) ∧
    (library.Lenient → parser.Lenient →
      ∀ fuel extent (report : Report ρ) last,
        store.parse library fuel extent parser input = some (report, last) →
        parser.Connected library report → ∀ message r, report.outcome ≠ .error message r) ∧
    (∀ (before after : List (Start ρ ε)) (part : Start ρ ε) (outcome : Outcome ρ Value) (last : Store),
      parser.Runs library input store.silence (before ++ part :: after) outcome last →
        ∃ path now, parser.Applies library input store.silence before path part now) := by
  refine ⟨?_, ?_, fun before after part outcome last => Parser.Runs.applies⟩
  · intro before calls path part now last message r applies clear fails relayed
    have runs := applies.runs_error clear fails
    refine ⟨fun starts outcome last' => runs.unique, fun extent outcome => ?_,
      fun stays => Frame.relayAll_position stays message r,
      fun repeats => Frame.relayAll_message repeats message r⟩
    have kept : extent.finish (.error relayed.1 relayed.2) = .error relayed.1 relayed.2 := by
      cases extent <;> rfl
    rw [Store.answers_iff_runs]
    constructor
    · rintro ⟨starts, ended, state, ran, rfl⟩
      obtain ⟨-, rfl, -⟩ := runs.unique.mp ran
      exact kept
    · rintro rfl
      exact ⟨_, _, _, runs, kept⟩
  · intro hl hp fuel extent report last parsed connected message r
    exact hp.not_error hl parsed connected

/-- After the first letter a definition that refers to itself stops the parse. The guard around both
moves the error to the start, and the message for errors replaces its text. Without the stop, the
same grammar reports no error. -/
theorem error_ends_parse_guarded :
    let library : Library Char := fun _ => none
    let grammar (inner : Parser Char) : Parser Char := .place (.choice
      (.guard (.seq (.character 'a') (.recursive "R" (.errorMessage "late" inner)))) .any) true [0]
    let start := TextReader.ofString "ab"
    (∀ extent outcome, ({} : Store).Answers library extent (grammar (.fatal "stop")) start outcome ↔
      outcome = .error "late" start) ∧
    ∃ (report : Report TextReader) (last : Store),
      ({} : Store).parse library 40 .whole (grammar (.character 'c')) start =
        some (report, last) ∧ ∀ message r, report.outcome ≠ .error message r := by
  intro library grammar start
  refine ⟨?_, ?_⟩
  · let next := Reader.rest start
    have letter : (parsing library).Evaluates (.more ⟨.character 'a', start⟩) ({} : Store).silence
        [⟨.character 'a', start⟩] (.success (.char 'a') next) ({} : Store).silence :=
      .more (.done _ _)
    have applies : ∃ before path now, (grammar (.fatal "stop")).Applies library start
        ({} : Store).silence before path ⟨.fatal "stop", next⟩ now ∧
          path = [.adjusting (.errorMessage "late") next, .joining Value.pair (.char 'a'),
            .adjusting .guard start, .otherwise .any start] :=
      ⟨_, _, _, .more (.first (.more (.first (.more (.second letter
        (.first (.more (.more (.first (.here _ _)))))))))), rfl⟩
    obtain ⟨before, path, now, applies, rfl⟩ := applies
    have fails : (Parser.fatal "stop").Runs library next now [⟨.fatal "stop", next⟩]
        (.error "stop" next) now := Parser.runs_iff_evaluates.mpr (.more (.done _ _))
    have cut := (error_ends_parse library (grammar (.fatal "stop")) start {}).1 _ _ _ _ _ _ _ _
      applies (by simp [Frame.HandsOn]) fails
    exact cut.2.1
  · have ends : (({} : Store).parse library 40 .whole (grammar (.character 'c')) start).isSome =
        true := by rfl
    obtain ⟨⟨report, last⟩, parsed⟩ := Option.isSome_iff_exists.mp ends
    have lenient : (grammar (.character 'c')).Lenient :=
      ⟨⟨nofun, nofun, nofun, nofun⟩, nofun⟩
    have held : (grammar (.character 'c')).Held library (fun _ _ _ => False) Parser.nowhere :=
      .choice (.adjust (.sequence (.primitive _) (.fixpoint (.adjust (.primitive _)))))
        (.primitive _)
    exact ⟨report, last, parsed, (error_ends_parse library (grammar (.character 'c')) start {}).2.1
      nofun lenient 40 .whole report last parsed (.inr ⟨_, nofun, held⟩)⟩

end SafeDescent
