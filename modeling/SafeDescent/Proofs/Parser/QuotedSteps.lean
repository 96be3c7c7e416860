import SafeDescent.Proofs.Parser.QuotedOutcomes

namespace SafeDescent

variable {signatures : Signatures} {library : Library Char}

/-- The parser starts where the quote does, and its values are verbatim. -/
def Start.Quotes (signatures : Signatures) (quote : Quote) (start : Start TextReader Char) : Prop :=
  start.input = quote.start ∧
    ∃ names known, known.Fits quote.yield ∧ start.parser.Verbatim signatures names known

/-- The frame makes the second quote of an outcome with the first one. -/
def Frame.Quotes (signatures : Signatures) (earlier : Quote) (frame : Frame TextReader Char)
    (quote : Quote) : Prop :=
  match frame with
  | .following combine second => earlier.start = quote.start ∧
      ∃ y₂ known names, Joins combine earlier.yield y₂ known ∧ known.Fits quote.yield ∧
        second.Verbatim signatures names y₂
  | .joining combine first => quote.start.Reads first.chars earlier.start ∧
      ∃ y₁ known, Joins combine y₁ earlier.yield known ∧ known.Fits quote.yield ∧ first.Has y₁
  | .otherwise second start => earlier = quote ∧ Start.Quotes signatures quote ⟨second, start⟩
  | .comparing _ _ => earlier = quote
  | .repeating _ body values start => earlier = ⟨start, .anything⟩ ∧ quote.yield = .anything ∧
      quote.start.Reads (values.toList.flatMap Value.chars) start ∧
        ∃ names, body.Verbatim signatures names .anything
  | .adjusting adjustment start => start = quote.start ∧ earlier.start = quote.start ∧
      ∃ known, adjustment.Verbatim earlier.yield known ∧ known.Fits quote.yield
  | .leaving _ => earlier = quote
  | .opening _ _ _ _ _ => False
  | .folding _ _ => False
  | .choosing _ => False
  | .selecting _ _ => False

abbrev Run.Quotes (signatures : Signatures) (quote : Quote) (run : Run TextReader Char) : Prop :=
  run.Promises (Start.Quotes signatures) (Frame.Quotes signatures) Quote.Kept quote

theorem Run.round_quotes {bounds : Bounds} {body : Parser Char} {names : Reference → Yield}
    (hb : body.Verbatim signatures names .anything) {values : Array Value} {quote : Quote}
    {input : TextReader} (hy : quote.yield = .anything)
    (reads : quote.start.Reads (values.toList.flatMap Value.chars) input) :
    (Run.round bounds body values input).Quotes signatures quote := by
  unfold Run.round
  split
  · refine .done (Quote.kept_success.mpr ⟨?_, hy ▸ trivial⟩)
    rw [Value.chars_list]
    exact reads
  · refine .flatMap (e := ⟨input, .anything⟩) (.more ⟨rfl, names, .anything, ?_, hb⟩)
      ⟨rfl, hy, reads, names, hb⟩
    exact Yield.fits_self _

theorem afterRound_quotes {bounds : Bounds} {body : Parser Char} {names : Reference → Yield}
    (hb : body.Verbatim signatures names .anything) {values : Array Value} {quote : Quote}
    {start : TextReader} (hy : quote.yield = .anything)
    (reads : quote.start.Reads (values.toList.flatMap Value.chars) start)
    {outcome : Outcome TextReader Value} (kept : Quote.Kept ⟨start, .anything⟩ outcome) :
    (afterRound bounds body values start outcome).Quotes signatures quote := by
  cases outcome with
  | success value r =>
    obtain ⟨more, -⟩ := Quote.kept_success.mp kept
    have further : quote.start.Reads ((values.push value).toList.flatMap Value.chars) r := by
      simpa using reads.trans more
    simp only [afterRound]
    split
    · refine .done (Quote.kept_success.mpr ⟨?_, hy ▸ trivial⟩)
      rw [Value.chars_list]
      exact further
    · exact Run.round_quotes hb hy further
  | failure message r =>
    simp only [afterRound]
    split
    · refine .done (Quote.kept_success.mpr ⟨?_, hy ▸ trivial⟩)
      rw [Value.chars_list]
      exact reads
    · exact .done (Quote.kept_failure _ _)
  | error message r => exact .done (Quote.kept_error _ _)

/-- Every step of a parse with verbatim values hands the text on that was read so far. -/
theorem parsing_honours_quotes (hl : library.Verbatim signatures) :
    (parsing library).Honours (Start.Quotes signatures) (Frame.Quotes signatures) Quote.Kept where
  call := by
    rintro quote ⟨parser, input⟩ store ⟨rfl, names, known, fits, hp⟩
    have same : quote.yield.Fits quote.yield := Yield.fits_self _
    cases parser with
    | primitive p => exact .done (p.run_kept hp fits)
    | sequence combine first second =>
      obtain ⟨y₁, y₂, joined, joins, hj, h₁, h₂⟩ := hp
      exact .flatMap (e := ⟨quote.start, y₁⟩) (.more ⟨rfl, names, y₁, Yield.fits_self _, h₁⟩)
        ⟨rfl, y₂, joined, names, joins, hj.trans fits, h₂⟩
    | choice first second =>
      exact .flatMap (e := quote) (.more ⟨rfl, names, known, fits, hp.1⟩)
        ⟨rfl, rfl, names, known, fits, hp.2⟩
    | many bounds body =>
      obtain ⟨rfl, hb⟩ := hp
      have anything : quote.yield = .anything := by
        rcases fits with h | h <;> exact h
      exact Run.round_quotes hb anything (.refl _)
    | chain join bounds operand separator => exact hp.elim
    | adjust adjustment body =>
      obtain ⟨inner, keeps, hb⟩ := hp
      exact .flatMap (e := ⟨quote.start, inner⟩)
        (.more ⟨rfl, names, inner, Yield.fits_self _, hb⟩) ⟨rfl, rfl, known, keeps, fits⟩
    | flatMap body next => exact hp.elim
    | select body index branches => exact hp.elim
    | tap id body =>
      exact .flatMap (e := quote) (.more ⟨rfl, names, known, fits, hp⟩) rfl
    | deferred site body => exact .more ⟨rfl, names, known, fits, hp⟩
    | fixpoint site name body =>
      obtain ⟨inner, hi, hb⟩ := hp
      exact .more ⟨rfl, names, inner, hi.trans fits, hb.unfold⟩
    | copied site name scope =>
      obtain ⟨sealing, inner, yields, signature, hi, hs⟩ := hp
      simp only [parsing, Start.call]
      split
      next body found =>
        have hb := hl name body inner yields found signature
        exact .more ⟨rfl, names, yields, hi.trans fits, hb.copy sealing hs ..⟩
      next => exact .done (Quote.kept_error _ _)
    | reference target => exact .done (Quote.kept_error _ _)
    | handle site name body =>
      obtain ⟨names, inner, hi, hb⟩ := hp
      simp only [parsing, Start.call]
      split
      · exact .more ⟨rfl, names, inner, hi.trans fits, inner, Yield.fits_self _, hb⟩
      · exact .done (Quote.kept_error _ _)
    | shared body =>
      obtain ⟨names, inner, hi, hb⟩ := hp
      exact .more ⟨rfl, names, inner, hi.trans fits, hb⟩
  resume := by
    intro earlier quote frame outcome store hf kept
    cases frame with
    | following combine second =>
      obtain ⟨start, y₂, known, names, joins, fits, h₂⟩ := hf
      cases outcome with
      | success value r =>
        obtain ⟨reads, has⟩ := Quote.kept_success.mp kept
        rw [start] at reads
        exact .flatMap (e := ⟨r, y₂⟩) (.more ⟨rfl, names, y₂, Yield.fits_self _, h₂⟩)
          ⟨reads, earlier.yield, known, joins, fits, has⟩
      | failure message r => exact .done (Quote.kept_failure _ _)
      | error message r => exact .done (Quote.kept_error _ _)
    | joining combine first =>
      obtain ⟨reads, y₁, known, joins, fits, hfirst⟩ := hf
      cases outcome with
      | success value r =>
        obtain ⟨more, has⟩ := Quote.kept_success.mp kept
        refine .done (Quote.kept_success.mpr ⟨?_, (joins.has first value).fits fits⟩)
        rw [joins.chars_eq hfirst has]
        exact reads.trans more
      | failure message r => exact .done (Quote.kept_failure _ _)
      | error message r => exact .done (Quote.kept_error _ _)
    | otherwise second start =>
      obtain ⟨rfl, hs⟩ := hf
      cases outcome with
      | success value r => exact .done kept
      | failure message r => exact .flatMap (e := earlier) (.more hs) rfl
      | error message r => exact .done kept
    | comparing message stopped =>
      obtain rfl : earlier = quote := hf
      exact .done (kept.furthest message stopped)
    | repeating bounds body values start =>
      obtain ⟨rfl, hy, reads, names, hb⟩ := hf
      exact afterRound_quotes hb hy reads kept
    | opening join bounds operand separator start => exact hf.elim
    | folding join first => exact hf.elim
    | adjusting adjustment start =>
      obtain ⟨rfl, same, known, keeps, fits⟩ := hf
      exact .done (Adjustment.apply_kept keeps fits same kept)
    | choosing next => exact hf.elim
    | selecting index branches => exact hf.elim
    | leaving id =>
      obtain rfl : earlier = quote := hf
      exact .done kept

end SafeDescent
