import SafeDescent.Parser.Text
import SafeDescent.Proofs.Parser.RewordedSteps
import SafeDescent.Reader.Text

namespace SafeDescent

/-- Messages have no influence on a parse. Of two parsers that differ at most in the texts for their
messages and in adjustments of messages, either both come to an end or neither does. They start the
same other parsers at the same positions in the same order, and the two outcomes differ at most in
their messages. -/
theorem messages_without_influence {ρ ε : Type} [Reader ρ ε] [Element ε] [DecidableEq ε]
    {library library' : Library ε} (hl : library.Reworded library') {parser parser' : Parser ε}
    (h : parser.Reworded parser') (input : ρ) (store store' : Store) :
    ((∃ starts outcome last, parser.Runs library input store starts outcome last) ↔
      ∃ starts' outcome' last', parser'.Runs library' input store' starts' outcome' last') ∧
    (∀ starts outcome last starts' outcome' last',
      parser.Runs library input store starts outcome last →
      parser'.Runs library' input store' starts' outcome' last' →
        outcome.Reworded outcome' ∧
        List.Forall₂ Start.Reworded (starts.filter (!·.rewords)) (starts'.filter (!·.rewords))) ∧
    ∀ extent,
      ((∃ outcome, store.Answers library extent parser input outcome) ↔
        ∃ outcome', store'.Answers library' extent parser' input outcome') ∧
      ∀ outcome outcome', store.Answers library extent parser input outcome →
        store'.Answers library' extent parser' input outcome' → outcome.Reworded outcome' := by
  have hl' : library'.Reworded library := hl.symm
  refine ⟨⟨?_, ?_⟩, ?_, fun extent => ⟨⟨?_, ?_⟩, ?_⟩⟩
  · intro run
    obtain ⟨starts, outcome, last, run⟩ := run
    obtain ⟨starts', outcome', last', run', -, -⟩ := h.runs hl run store'
    exact ⟨starts', outcome', last', run'⟩
  · intro run'
    obtain ⟨starts', outcome', last', run'⟩ := run'
    obtain ⟨starts, outcome, last, run, -, -⟩ := h.symm.runs hl' run' store
    exact ⟨starts, outcome, last, run⟩
  · intro starts outcome last starts' outcome' last' run run'
    obtain ⟨others, ended, final, ran, same, calls⟩ := h.runs hl run store'
    obtain ⟨rfl, rfl, -⟩ := ran.unique.mp run'
    exact ⟨same, calls⟩
  · intro answers
    obtain ⟨outcome, answers⟩ := answers
    obtain ⟨outcome', answers', -⟩ := h.answers hl answers store'
    exact ⟨outcome', answers'⟩
  · intro answers'
    obtain ⟨outcome', answers'⟩ := answers'
    obtain ⟨outcome, answers, -⟩ := h.symm.answers hl' answers' store
    exact ⟨outcome, answers⟩
  · intro outcome outcome' answers answers'
    obtain ⟨ended, ends, same⟩ := h.answers hl answers store'
    obtain rfl := ends.unique answers'
    exact same

/-- A term in brackets with texts of its own for what goes wrong, and the same without them. Behind
two brackets both parsers stop the parse at the same place. -/
theorem messages_without_influence_brackets :
    let library : Library Char := fun _ => none
    let term (inner : Parser Char) : Parser Char := .place (.recursive "r" inner) true [0]
    let deeper : Parser Char := .seq (.character '(') (.commit (.reference (.binder "r")))
    let worded := term (.failureMessage "expected a term"
      (.choice (.satisfy (· = 'x') "a variable") (.errorMessage "missing term" deeper)))
    let plain := term (.choice (.satisfy (· = 'x') "x") deeper)
    let start := TextReader.ofString "(("
    let stopped := Reader.advance 2 start
    library.Reworded library ∧ worded.Reworded plain ∧
      ({} : Store).Answers library .part worded start (.error "missing term" stopped) ∧
      ({} : Store).Answers library .part plain start (.error "expected x, but reached end of input" stopped) ∧
      (Outcome.error "missing term" stopped : Outcome TextReader Value).Reworded
        (.error "expected x, but reached end of input" stopped) := by
  intro library term deeper worded plain start stopped
  have hl : library.Reworded library := fun _ => .none
  have h : worded.Reworded plain := by
    refine .fixpoint rfl (.first rfl (.choice (.primitive (.satisfy ..)) (.first rfl ?_)))
    exact .sequence (.primitive (.same _)) (.adjust (.reference _))
  have answers : ({} : Store).Answers library .part worded start (.error "missing term" stopped) :=
    ⟨80, _, _, rfl, rfl⟩
  have answers' : ({} : Store).Answers library .part plain start
      (.error "expected x, but reached end of input" stopped) := ⟨80, _, _, rfl, rfl⟩
  have outcomes := messages_without_influence hl h start {} {}
  exact ⟨hl, h, answers, answers', (outcomes.2.2 .part).2 _ _ answers answers'⟩

end SafeDescent
