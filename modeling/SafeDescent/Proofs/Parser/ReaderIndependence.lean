import SafeDescent.Parser.Text
import SafeDescent.Proofs.Parser.Correspondence
import SafeDescent.Proofs.Reader.Ahead
import SafeDescent.Reader.Slice
import SafeDescent.Reader.Text

namespace SafeDescent

variable {ρ ρ' ε : Type}

/-- No span is taken anywhere in the parser. -/
def Parser.SpanFree (parser : Parser ε) : Prop := parser.MadeOf (fun _ => True) (· ≠ .spanned)

def Library.SpanFree (library : Library ε) : Prop :=
  ∀ name body, library name = some body → Parser.SpanFree body

variable [Reader ρ ε] [Reader ρ' ε]

/-- Two positions that stand equally many elements after two others. -/
def Reader.SamePlace (input : ρ) (input' : ρ') (r : ρ) (r' : ρ') : Prop :=
  ∃ k, Reader.Holds k input ∧ r = Reader.advance k input ∧ r' = Reader.advance k input'

/-- After any number of turns neither of two parses of a parser has ended, or both have, with one
kind of outcome, the same value or message, and equally many elements read. -/
def Parser.SameAnswers [Element ε] [DecidableEq ε] (library : Library ε) (parser : Parser ε)
    (input : ρ) (input' : ρ') : Prop :=
  ∀ (fuel : Nat) (extent : Extent) (store store' : Store),
    Option.Rel
      (fun parsed parsed' =>
        Outcome.Related (Reader.SamePlace input input') parsed.1.outcome parsed'.1.outcome)
      (store.parse library fuel extent parser input)
      (store'.parse library fuel extent parser input')

theorem Reader.samePlace_corresponds {input : ρ} {input' : ρ'}
    (same : Reader.SameAhead input input') (strict : Reader.Strict input)
    (strict' : Reader.Strict input') : Reader.Corresponds (Reader.SamePlace input input') where
  first := by
    intro r r' place
    obtain ⟨k, holds, rfl, rfl⟩ := place
    exact same k holds
  rest := by
    intro r r' place some
    obtain ⟨k, holds, rfl, rfl⟩ := place
    exact ⟨k + 1, holds.succ some, Reader.rest_advance k input, Reader.rest_advance k input'⟩
  offset_lt := by
    intro a b a' b' place place'
    obtain ⟨i, hi, rfl, rfl⟩ := place
    obtain ⟨j, hj, rfl, rfl⟩ := place'
    have left := strict.offset_lt_iff hi hj
    have right := strict'.offset_lt_iff (same.holds hi) (same.holds hj)
    rw [left, right]

omit [Reader ρ ε] [Reader ρ' ε] in
theorem Library.SpanFree.alike {library : Library ε} (h : library.SpanFree) :
    library.Alike (· ≠ .spanned) library := by
  intro name
  cases hb : library name with
  | none => exact .none
  | some body => exact .some (h name body hb).alike

theorem Parser.SpanFree.sameAnswers [Element ε] [DecidableEq ε] {library : Library ε}
    {parser : Parser ε} {input : ρ} {input' : ρ'} (hl : library.SpanFree) (hp : parser.SpanFree)
    (same : Reader.SameAhead input input') (strict : Reader.Strict input)
    (strict' : Reader.Strict input') : parser.SameAnswers library input input' := by
  intro fuel extent store store'
  have corresponds := Reader.samePlace_corresponds same strict strict'
  have spans : SpansAgree (· ≠ .spanned) (Reader.SamePlace input input') :=
    fun ne => absurd rfl ne
  have start : Reader.SamePlace input input' input input' := ⟨0, .zero input, rfl, rfl⟩
  exact Store.parse_related hl.alike corresponds spans hp.alike start fuel extent store store'

theorem Parser.SpanFree.sameAnswers_of_ahead_eq [LawfulReader ρ ε] [LawfulReader ρ' ε]
    [Element ε] [DecidableEq ε] {library : Library ε} {parser : Parser ε} {input : ρ} {input' : ρ'}
    (hl : library.SpanFree) (hp : parser.SpanFree)
    (same : LawfulReader.ahead input = LawfulReader.ahead input') :
    parser.SameAnswers library input input' :=
  hp.sameAnswers hl (Reader.sameAhead_of_ahead_eq same) (Reader.strict_of_lawful input)
    (Reader.strict_of_lawful input')

/-- What a parser without spans answers depends only on the elements ahead. So it does not matter
whether characters are counted by bytes or one by one, nor what stands before them. -/
theorem sameAnswers_of_sameAhead :
    (∀ {ρ ρ' ε : Type} [Reader ρ ε] [Reader ρ' ε] [Element ε] [DecidableEq ε]
      (library : Library ε) (parser : Parser ε) (input : ρ) (input' : ρ'),
      library.SpanFree → parser.SpanFree → Reader.SameAhead input input' →
        Reader.Strict input → Reader.Strict input' → parser.SameAnswers library input input') ∧
    ∀ (library : Library Char) (parser : Parser Char), library.SpanFree → parser.SpanFree →
      (∀ text : String, parser.SameAnswers library (TextReader.ofString text)
        (SliceReader.ofArray text.toList.toArray)) ∧
      ∀ r : TextReader, parser.SameAnswers library r (TextReader.ofString r.unread) := by
  refine ⟨?_, ?_⟩
  · intro ρ ρ' ε _ _ _ _ library parser input input' hl hp same strict strict'
    exact hp.sameAnswers hl same strict strict'
  · intro library parser hl hp
    refine ⟨?_, ?_⟩
    · intro text
      refine hp.sameAnswers_of_ahead_eq hl ?_
      simp [LawfulReader.ahead, TextReader.ofString, SliceReader.ahead, SliceReader.ofArray]
    · intro r
      refine hp.sameAnswers_of_ahead_eq hl ?_
      simp [LawfulReader.ahead, TextReader.ofString, TextReader.unread]

/-- Letters of two bytes, counted as bytes from the start of a text and one by one from the middle
of an array, are parsed alike by a grammar that refers to itself. -/
theorem sameAnswers_twoByteLetters :
    let library : Library Char := fun _ => none
    let parser : Parser Char := .place
      (.choice
        (.recursive "R" (.choice (.seq (.character 'é') (.reference (.binder "R"))) (.character '!')))
        (.optional (.repeated 1 none .any))) true [0]
    let input := TextReader.ofString "éé?"
    let input' : SliceReader Char := ⟨#['x', 'é', 'é', '?'], 1, by decide⟩
    library.SpanFree ∧ parser.SpanFree ∧ Reader.SameAhead input input' ∧ Reader.Strict input ∧
      Reader.Strict input' ∧ parser.SameAnswers library input input' := by
  intro library parser input input'
  have hl : library.SpanFree := by
    intro name body h
    simp [library] at h
  have hp : parser.SpanFree := ⟨⟨⟨trivial, trivial⟩, trivial⟩, nofun, trivial⟩
  have same : Reader.SameAhead input input' := Reader.sameAhead_of_ahead_eq (by decide)
  have strict := Reader.strict_of_lawful input
  have strict' := Reader.strict_of_lawful input'
  exact ⟨hl, hp, same, strict, strict',
    sameAnswers_of_sameAhead.1 library parser input input' hl hp same strict strict'⟩

end SafeDescent
