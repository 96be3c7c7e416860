import SafeDescent.Proofs.Parser.SpelledTexts
import SafeDescent.Proofs.Reader.Reading
import SafeDescent.Proofs.Value.Characters

namespace SafeDescent

theorem Element.joined_toList (s : String) : Element.joined s.toList = s :=
  String.toList_inj.mp (Element.toList_joined s.toList)

/-- The message of a literal that fails: the character that is due, and what stands there instead. -/
def Parser.literalFailure (s : String) (expected : Char) : Option Char → String
  | some found =>
    "expected '" ++ expected.toString ++ "', found '" ++ found.toString ++ "' while matching '" ++ s ++
      "'"
  | none =>
    "expected '" ++ expected.toString ++ "', but reached end of input while matching '" ++ s ++ "'"

theorem Mismatch.message_missingIn (s : String) (expected : Char) (found : Option Char) :
    (Mismatch.missingIn s.toList expected found).message =
      Parser.literalFailure s expected found := by
  have plain (c : Char) : Element.plain c = c.toString := by
    have written : Element.plain c = "".push c := rfl
    rw [written, Char.toString, String.singleton]
  unfold Mismatch.message Parser.literalFailure
  cases found with
  | none =>
    dsimp only
    rw [Element.joined_toList, plain]
  | some c =>
    dsimp only
    rw [Element.joined_toList, plain, plain]

section

variable {library : Library Char} {r : TextReader} {s : String} {common : List Char} {expected : Char}

theorem Parser.yields_literal_of_begins (h : s.toList <+: r.ahead) :
    (Parser.literal s).Yields library r (.success (.text s) (Reader.advance s.length r)) := by
  refine yields_primitive_iff.mpr ?_
  rw [Primitive.run, matchLiteral_of_begins _ h, Element.joined_toList, String.length_toList]

theorem Parser.yields_literal_of_parts (h : Parts s.toList r.ahead common expected) :
    (Parser.literal s).Yields library r
      (.failure (literalFailure s expected (Reader.first (Reader.advance common.length r)))
        (Reader.advance common.length r)) := by
  refine yields_primitive_iff.mpr ?_
  rw [Primitive.run, matchLiteral_of_parts _ h, Outcome.mismatch, Mismatch.message_missingIn]

end

/-- A literal matches where the text ahead begins with it. Otherwise it fails behind the longest
beginning that both share, and tells its next character and what stands there instead. Whether a text
is matched by one literal, by two in a row or character by character makes no difference to where it
ends. -/
theorem literal_matches_beginning (store : Store) (library : Library Char) (r : TextReader) :
    (∀ (s : String) (outcome : Outcome TextReader Value),
      store.Answers library .part (.literal s) r outcome ↔
        (s.toList <+: r.ahead ∧ ∃ r', outcome = .success (.text s) r' ∧
          r' = Reader.advance s.length r ∧ r'.offset = r.offset + s.utf8ByteSize) ∨
        ∃ common expected stopped, LongestCommonPrefix common s.toList r.ahead ∧
          s.toList[common.length]? = some expected ∧ stopped = Reader.advance common.length r ∧
          Reader.first stopped ≠ some expected ∧
          (Reader.first stopped = none ↔ r.ahead <+: s.toList) ∧
          outcome = .failure (Parser.literalFailure s expected (Reader.first stopped)) stopped) ∧
      (∀ (combine : Value → Value → Value) (s t : String),
        Parser.EndsAlike store library (.sequence combine (.literal s) (.literal t))
          (.literal (s ++ t)) r) ∧
      ∀ (s : String) (parser : Parser Char), parser.Spells s.toList →
        Parser.EndsAlike store library parser (.literal s) r := by
  have spelled (s : String) : (Parser.literal s).Spells s.toList := .literal s.toList
  have first (n : Nat) : Reader.first (Reader.advance n r) = r.ahead[n]? := Reader.first_advance n r
  refine ⟨?_, ?_, ?_⟩
  · intro s outcome
    rw [Store.answers_part_iff_yields]
    constructor
    · intro yields
      rcases begins_or_parts s.toList r.ahead with begins | ⟨common, expected, parts⟩
      · refine .inl ⟨begins, _, yields.unique (Parser.yields_literal_of_begins begins), rfl, ?_⟩
        rw [← String.length_toList, (TextReader.reads_advance begins).offset, utf8Length_toList]
      · have longest := parts.longestCommonPrefix
        refine .inr ⟨common, expected, _, longest, parts.getElem?_eq, rfl, ?_, ?_,
          yields.unique (Parser.yields_literal_of_parts parts)⟩
        · rw [first]
          exact parts.differs
        · rw [first, List.getElem?_eq_none_iff]
          constructor
          · intro ends
            rw [← longest.right.eq_of_length_le ends]
            exact longest.left
          · intro begins
            exact (longest.longest _ begins List.prefix_rfl).length_le
    · rintro (⟨begins, r', rfl, rfl, -⟩ | ⟨common, expected, stopped, longest, next, rfl, differs, -, rfl⟩)
      · exact Parser.yields_literal_of_begins begins
      · rw [first] at differs
        refine Parser.yields_literal_of_parts ⟨?_, longest.right, differs⟩
        obtain ⟨more, cut⟩ := longest.left
        rw [← cut, List.getElem?_append_right (Nat.le_refl _), Nat.sub_self,
          ← List.head?_eq_getElem?] at next
        obtain ⟨more, rfl⟩ := List.head?_eq_some_iff.mp next
        exact ⟨more, by rw [← cut, List.append_assoc, List.singleton_append]⟩
  · intro combine s t
    have both : (Parser.literal (s ++ t)).Spells (s.toList ++ t.toList) :=
      String.toList_append ▸ spelled (s ++ t)
    exact (Parser.Spells.sequence combine (spelled s) (spelled t)).endsAlike both store library r
  · intro s parser h
    exact h.endsAlike (spelled s) store library r

/-- After an offset of one byte, a letter of two bytes is read before the literal fails. -/
theorem literal_matches_beginning_twoByteLetter :
    let library : Library Char := fun _ => none
    let start := Reader.advance 1 (TextReader.ofString "xéb")
    let inTurn := (Parser.character 'é').seq (.character 'a')
    inTurn.Spells "éa".toList ∧
      ({} : Store).Answers library .part (.literal "éa") start
        (.failure "expected 'a', found 'b' while matching 'éa'" (Reader.advance 1 start)) ∧
      ∃ message, ({} : Store).Answers library .part inTurn start
        (.failure message (Reader.advance 1 start)) := by
  intro library start inTurn
  have spells : inTurn.Spells "éa".toList := .sequence Value.pair (.element 'é') (.element 'a')
  have fails : ({} : Store).Answers library .part (.literal "éa") start
      (.failure "expected 'a', found 'b' while matching 'éa'" (Reader.advance 1 start)) :=
    ⟨20, _, _, rfl, rfl⟩
  obtain ⟨-, -, alike⟩ := literal_matches_beginning {} library start
  exact ⟨spells, fails, (alike "éa" inTurn spells _).2.mpr ⟨_, fails⟩⟩

end SafeDescent
