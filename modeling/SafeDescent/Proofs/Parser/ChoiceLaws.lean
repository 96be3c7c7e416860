import SafeDescent.Parser.Text
import SafeDescent.Proofs.Parser.ChoiceRules
import SafeDescent.Reader.Text

namespace SafeDescent

/-- Laws of alternatives. Three of them may be bracketed either way, as long as the middle one has no
error at the position. What two alternatives begin with can be taken out of them. An alternative that
fails where it starts adds nothing, as long as offsets never decrease, and neither does a parser as an
alternative to itself. -/
theorem alternation_laws {ε : Type} [Element ε] [DecidableEq ε] (library : Library ε)
    (first second third : Parser ε) (kept : Bool) (path path' : List Nat) :
    (∀ (ρ : Type) [Reader ρ ε] (input : ρ),
      (∀ message r, ¬ (second.place kept []).Yields library input (.error message r)) →
        Parser.Agree library ((Parser.oneOf first [second, third]).place kept path)
          ((Parser.choice first (.choice second third)).place kept path') input) ∧
    (∀ combine : Value → Value → Value, Parser.Equivalent library
      ((Parser.choice (.sequence combine first second) (.sequence combine first third)).place kept path)
      ((Parser.sequence combine first (.choice second third)).place kept path')) ∧
    (∀ (message : String) (ρ : Type) [Reader ρ ε] (input : ρ), Reader.Forward input →
      Parser.Agree library ((Parser.choice first (.fail message)).place kept path)
        (first.place kept path') input) ∧
    Parser.Equivalent library ((Parser.choice first first).place kept path)
      (first.place kept path') := by
  -- The two sides are compared with every parser at one place, since places make no difference.
  let placed (parser : Parser ε) := parser.place kept []
  have alike (parser : Parser ε) (path : List Nat) :
      Parser.Alike (fun _ => True) (parser.place kept path) (placed parser) :=
    parser.madeOf_anything.alike.place kept path []
  refine ⟨?_, ?_, ?_, ?_⟩
  · intro ρ _ input calm
    refine Parser.agree_of_yields fun outcome => ?_
    calc
      _ ↔ (Parser.choice (.choice (placed first) (placed second)) (placed third)).Yields library input
            outcome :=
        Parser.yields_iff_of_alike (.choice (.choice (alike ..) (alike ..)) (alike ..))
      _ ↔ (Parser.choice (placed first) (.choice (placed second) (placed third))).Yields library input
            outcome := Parser.yields_choice_assoc calm
      _ ↔ _ := (Parser.yields_iff_of_alike (.choice (alike ..) (.choice (alike ..) (alike ..)))).symm
  · intro combine ρ _ input
    refine Parser.agree_of_yields fun outcome => ?_
    calc
      _ ↔ (Parser.choice (.sequence combine (placed first) (placed second))
            (.sequence combine (placed first) (placed third))).Yields library input outcome :=
        Parser.yields_iff_of_alike
          (.choice (.sequence (alike ..) (alike ..)) (.sequence (alike ..) (alike ..)))
      _ ↔ (Parser.sequence combine (placed first) (.choice (placed second) (placed third))).Yields
            library input outcome := Parser.yields_choice_sequence
      _ ↔ _ := (Parser.yields_iff_of_alike (.sequence (alike ..) (.choice (alike ..) (alike ..)))).symm
  · intro message ρ _ input forward
    refine Parser.agree_of_yields fun outcome => ?_
    calc
      _ ↔ (Parser.choice (placed first) (.fail message)).Yields library input outcome :=
        Parser.yields_iff_of_alike (.choice (alike ..) (.primitive _))
      _ ↔ (placed first).Yields library input outcome := Parser.yields_choice_fail forward
      _ ↔ _ := (Parser.yields_iff_of_alike (alike ..)).symm
  · intro ρ _ input
    refine Parser.agree_of_yields fun outcome => ?_
    calc
      _ ↔ (Parser.choice (placed first) (placed first)).Yields library input outcome :=
        Parser.yields_iff_of_alike (.choice (alike ..) (alike ..))
      _ ↔ (placed first).Yields library input outcome := Parser.yields_choice_self
      _ ↔ _ := (Parser.yields_iff_of_alike (alike ..)).symm

/-- A bracket that may hold an x, a y or a z: the three alternatives fail at different offsets. A
failure in place of the last two keeps the first. -/
theorem alternation_laws_brackets :
    let library : Library Char := fun _ => none
    let mark (c : Char) (missing : String) : Parser Char := .failureMessage missing (.character c)
    let first := (mark '(' "no bracket").seq (mark 'x' "no x")
    let second := (mark '(' "no bracket").seq ((mark 'y' "no y").seq (mark ')' "not closed"))
    let third := mark 'z' "no z"
    let start := TextReader.ofString "(y]"
    (∀ message r, ¬ (second.place true []).Yields library start (.error message r)) ∧
      Reader.Forward start ∧
      ({} : Store).Answers library .part ((Parser.choice first (.choice second third)).place true [1])
        start (.failure "not closed" (Reader.advance 2 start)) ∧
      ({} : Store).Answers library .part ((Parser.choice first (.fail "nothing")).place true [0]) start
        (.failure "no x" (Reader.advance 1 start)) := by
  intro library mark first second third start
  have calm : ∀ message r, ¬ (second.place true []).Yields library start (.error message r) := by
    intro message r yields
    have fails : (second.place true []).Yields library start
        (.failure "not closed" (Reader.advance 2 start)) := .of_run 40 ⟨_, rfl⟩
    cases yields.unique fails
  have forward : Reader.Forward start := (Reader.strict_of_lawful start).forward
  have bracketed : ({} : Store).Answers library .part
      ((Parser.oneOf first [second, third]).place true [0]) start
      (.failure "not closed" (Reader.advance 2 start)) := ⟨60, _, _, rfl, rfl⟩
  have alone : ({} : Store).Answers library .part (first.place true [1]) start
      (.failure "no x" (Reader.advance 1 start)) := ⟨40, _, _, rfl, rfl⟩
  have laws := alternation_laws library first second third true [0] [1]
  exact ⟨calm, forward, (laws.1 TextReader start calm .part {} {} _).mp bracketed,
    (laws.2.2.1 "nothing" TextReader start forward .part {} {} _).mpr alone⟩

end SafeDescent
