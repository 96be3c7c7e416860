import SafeDescent.Parser.Text
import SafeDescent.Proofs.Parser.Equivalence
import SafeDescent.Proofs.Parser.QuotedSteps

namespace SafeDescent

variable {signatures : Signatures} {library : Library Char}

/-- The value of a success holds the text that was read: no character of it is missing, none comes
two times, and they stand in their order. -/
theorem Store.parse_slice {store store' : Store} {fuel : Nat} {extent : Extent}
    {parser : Parser Char} {names : Reference → Yield} {y : Yield} {input : TextReader}
    {report : Report TextReader} (hl : library.Verbatim signatures)
    (hp : parser.Verbatim signatures names y)
    (h : store.parse library fuel extent parser input = some (report, store')) :
    ∀ value r, report.outcome = .success value r →
      (Span.mk input.offset r.offset).slice? input.source = some value.toText := by
  obtain ⟨starts, outcome, last, runs, finish⟩ :=
    Store.answers_iff_runs.mp ⟨fuel, report, store', h, rfl⟩
  have promises : Trampoline.Promises (Start.Quotes signatures) (Frame.Quotes signatures)
      Quote.Kept ⟨input, y⟩ (.more ⟨parser, input⟩) :=
    .more ⟨rfl, names, y, Yield.fits_self y, hp⟩
  have kept : Quote.Kept ⟨input, y⟩ outcome :=
    (parsing_honours_quotes hl).evaluates promises (Parser.runs_iff_evaluates.mp runs)
  intro value r success
  obtain ⟨reads, -⟩ := kept.finish extent value r (finish.trans success)
  rw [reads.slice, Value.chars, String.ofList_toList]

/-- A letter with what stands in brackets after it, to any depth. -/
def Parser.applied : Parser Char :=
  .fixpoint ⟨[0], true, none⟩ "applied" (.prependMixed .char .letter (.choice
    (.appendMixed .emptyMixed .value
      (.tuple (.character '(') (.reference (.binder "applied")) [.character ')']))
    (.appendMixed .emptyMixed .text
      (.prepend .text .any (.repeated 0 none (.guard .any))))))

theorem Parser.applied_verbatim :
    Parser.applied.Verbatim (fun _ _ _ => False) (fun _ => .anything) .mixed := by
  have handle : (Parser.reference (.binder "applied")).Verbatim (fun _ _ _ => False)
      (Parser.bind (fun _ => .anything) "applied" .mixed) .anything := .inr rfl
  refine ⟨.mixed, .inl rfl, .character, .mixed, .mixed, .prependMixed rfl, .inl rfl, .inl rfl,
    ?_, ?_⟩
  · refine ⟨.mixed, .anything, .mixed, .appendMixed trivial, .inl rfl, ⟨rfl, [], rfl⟩, ?_⟩
    refine ⟨.anything, .anything, .anything, .extend, .inl rfl, ?_, .inr rfl⟩
    exact ⟨.anything, .anything, .anything, .pair, .inl rfl, .inr rfl, handle⟩
  · refine ⟨.mixed, .anything, .mixed, .appendMixed trivial, .inl rfl, ⟨rfl, [], rfl⟩, ?_⟩
    refine ⟨.character, .anything, .anything, .prepend .text, .inl rfl, .inl rfl, rfl, ?_⟩
    exact ⟨.anything, rfl, .inr rfl⟩

/-- The attempt at inner brackets is given back, and the letter of two bytes is kept. -/
theorem parse_slice_applied :
    Library.Verbatim (fun _ => none) (fun _ _ _ => False) ∧
    Parser.applied.Verbatim (fun _ _ _ => False) (fun _ => .anything) .mixed ∧
    ∃ report store' value r, ({} : Store).parse (fun _ => none) 90 .whole Parser.applied
        (TextReader.ofString "é(aé)") = some (report, store') ∧
      report.outcome = .success value r ∧
      (Span.mk 0 r.offset).slice? (TextReader.ofString "é(aé)").source = some value.toText := by
  have library : Library.Verbatim (fun _ => none) fun _ _ _ => False := nofun
  obtain ⟨report, store', value, r, parsed, success⟩ : ∃ report store' value r,
      ({} : Store).parse (fun _ => none) 90 .whole Parser.applied
        (TextReader.ofString "é(aé)") = some (report, store') ∧
      report.outcome = .success value r := ⟨_, _, _, _, rfl, rfl⟩
  exact ⟨library, Parser.applied_verbatim, report, store', value, r, parsed, success,
    Store.parse_slice library Parser.applied_verbatim parsed value r success⟩

end SafeDescent
