import SafeDescent.Parser.Text
import SafeDescent.Proofs.Parser.ChainLinks
import SafeDescent.Reader.Text

namespace SafeDescent

/-- What a chain does, exactly. One that has no room for an operand is absent at once and runs
nothing. If operands are needed, a chain answers like its operand followed by a repetition of a
separator and an operand, with both bounds one less, whose values are joined from the left; there
the first operand is held while it runs, as chains hold their parsers. If none is needed, it answers
like an option of the chain that needs one. So a first operand that fails is the failure of the
chain, or no operand where none is needed, and one that has an error is the error of the chain.

A value that is there comes from operands within the bounds, and once there are enough of them, a
separator behind which the operand fails is left unread. An upper bound below the lower one is
raised to it. -/
theorem chainLeft_joins {ε : Type} [Element ε] [DecidableEq ε] (library : Library ε)
    (join : Value → Value → Value → Value) (min : Nat) (max : Option Nat)
    (operand separator : Parser ε) :
    let limit := max.map (Nat.max · min)
    let tail := Parser.repeated (min - 1) (limit.map (· - 1)) (separator.seq operand)
    let chain := Parser.chainLeft join min max operand separator
    (limit = some 0 → ∀ (ρ : Type) [Reader ρ ε] (input : ρ) (store : Store)
      (starts : List (Start ρ ε)) (outcome : Outcome ρ Value) (last : Store),
        chain.Runs library input store starts outcome last ↔
          outcome = .success .none input ∧ last = store ∧ starts = [⟨chain, input⟩]) ∧
    (1 ≤ min → ∀ (kept : Bool) (path path' : List Nat), Parser.Equivalent library (chain.place kept path)
      (((operand.seq tail).map (Value.joinOperations join)).place true path')) ∧
    (max ≠ some 0 → ∀ (kept kept' : Bool) (path path' : List Nat), Parser.Equivalent library
      ((Parser.chainLeft join 0 max operand separator).place kept path)
      (((Parser.chainLeft join 1 max operand separator).optional.map Value.flatten).place kept' path')) ∧
    (∀ first pairs, Value.joinOperations join (.pair first (.operations pairs)) =
      .some (.joinLeft join first pairs)) ∧
    ∀ (ρ : Type) [Reader ρ ε] (input r : ρ),
      (limit ≠ some 0 → ∀ head, operand.Yields library input head → head.isSuccess = false →
        chain.Yields library input (head.orAbsent min input)) ∧
      (∀ v, chain.Yields library input (.success (.some v) r) →
        ∃ first middle pairs, operand.Yields library input (.success first middle) ∧
          Parser.Links library operand separator middle pairs r ∧ v = .joinLeft join first pairs ∧
          Nat.max min 1 ≤ pairs.length + 1 ∧ ∀ most, limit = some most → pairs.length + 1 ≤ most) ∧
      (limit ≠ some 0 → ∀ first middle rounds sign next message stopped,
        operand.Yields library input (.success first middle) →
        Parser.Iterates library (separator.seq operand) middle rounds r →
        Round.Due (min - 1) (limit.map (· - 1)) [] rounds → min ≤ rounds.length + 1 →
        separator.Yields library r (.success sign next) →
        operand.Yields library next (.failure message stopped) →
          chain.Yields library input
            (.success (.some (foldOperands join first (Round.values rounds))) r)) := by
  intro limit tail chain
  -- Chains hold their parsers, so that these have the same places on the two sides but for the path.
  have alike (parser : Parser ε) (path path' : List Nat) :
      Parser.Alike (fun _ => True) (parser.place true path) (parser.place true path') :=
    parser.madeOf_anything.alike.place true path path'
  let operand' := operand.place true []
  let separator' := separator.place true []
  refine ⟨?_, ?_, ?_, ?_, ?_⟩
  · intro full ρ _ input store starts outcome last
    have full' : (Bounds.between min max).max = some 0 := full
    simp only [chain, Parser.chainLeft, Parser.runs_chain_iff, full', true_and, ne_eq,
      not_true_eq_false, false_and, or_false]
  · intro needed kept path path' ρ _ input
    refine Parser.agree_of_yields fun outcome => ?_
    calc
      _ ↔ (Parser.chainLeft join min max operand' separator').Yields library input outcome :=
        Parser.yields_iff_of_alike (.chain (alike ..) (alike ..))
      _ ↔ ((operand'.seq (.repeated (min - 1) (limit.map (· - 1)) (separator'.seq operand'))).map
            (Value.joinOperations join)).Yields library input outcome :=
        Parser.yields_chainLeft_iff_seq needed
      _ ↔ _ := Parser.yields_iff_of_alike
        (.adjust trivial (.sequence (alike ..) (.many (.sequence (alike ..) (alike ..)))))
  · intro room kept kept' path path' ρ _ input
    refine Parser.agree_of_yields fun outcome => ?_
    calc
      _ ↔ (Parser.chainLeft join 0 max operand' separator').Yields library input outcome :=
        Parser.yields_iff_of_alike (.chain (alike ..) (alike ..))
      _ ↔ ((Parser.chainLeft join 1 max operand' separator').optional.map Value.flatten).Yields library
            input outcome := Parser.yields_chainLeft_iff_optional room
      _ ↔ _ := Parser.yields_iff_of_alike
        (.adjust trivial (.adjust trivial (.chain (alike ..) (alike ..))))
  · intro first pairs
    exact congrArg Value.some (foldOperands_operations join first pairs)
  · intro ρ _ input r
    refine ⟨?_, ?_, ?_⟩
    · intro room head hhead stopped
      exact Parser.yields_chainLeft_of_stopped room hhead stopped
    · intro v yields
      exact Parser.yields_chainLeft_some yields
    · intro room first middle rounds sign next message stopped hfirst iterates due enough hsign hfails
      exact Parser.yields_chainLeft_of_rounds room hfirst iterates due enough hsign hfails

/-- Letters with bars between them, two to four: the bar behind the second letter stays. Without room
for a letter, and without a letter where none is needed, a chain is absent. -/
theorem chainLeft_joins_letters :
    let library : Library Char := fun _ => none
    let letter : Parser Char := .character 'a'
    let bar : Parser Char := .character '|'
    let chain (min : Nat) (max : Option Nat) := Parser.chainLeft Value.tripled min max letter bar
    let tail := Parser.repeated 1 (some 3) (bar.seq letter)
    let start := TextReader.ofString "a|a|-"
    let joined := Value.tuple [.char 'a', .char '|', .char 'a']
    (chain 0 (some 0)).Yields library start (.success .none start) ∧
      ({} : Store).Answers library .part
        (((letter.seq tail).map (Value.joinOperations Value.tripled)).place true [1]) start
        (.success (.some joined) (Reader.advance 3 start)) ∧
      ({} : Store).Answers library .part (((chain 1 none).optional.map Value.flatten).place true [1])
        (TextReader.ofString "|") (.success .none (TextReader.ofString "|")) ∧
      (chain 2 (some 4)).Yields library start (.success (.some joined) (Reader.advance 3 start)) ∧
      ∃ first middle pairs, letter.Yields library start (.success first middle) ∧
        Parser.Links library letter bar middle pairs (Reader.advance 3 start) ∧
        joined = .joinLeft Value.tripled first pairs ∧ Nat.max 2 1 ≤ pairs.length + 1 ∧
        ∀ most, some 4 = some most → pairs.length + 1 ≤ most := by
  intro library letter bar chain tail start joined
  have laws (min : Nat) (max : Option Nat) := chainLeft_joins library Value.tripled min max letter bar
  have ran : ({} : Store).Answers library .part ((chain 2 (some 4)).place true [0]) start
      (.success (.some joined) (Reader.advance 3 start)) := ⟨100, _, _, rfl, rfl⟩
  have absent : ({} : Store).Answers library .part ((chain 0 none).place true [0])
      (TextReader.ofString "|") (.success .none (TextReader.ofString "|")) := ⟨20, _, _, rfl, rfl⟩
  -- The first letter, one round of a bar and a letter, and the bar behind which no letter stands.
  have first : letter.Yields library start (.success (.char 'a') (Reader.advance 1 start)) :=
    Parser.yields_primitive_iff.mpr rfl
  have round : Parser.Iterates library (bar.seq letter) (Reader.advance 1 start)
      [⟨Reader.advance 1 start, .pair (.char '|') (.char 'a'), Reader.advance 3 start⟩]
      (Reader.advance 3 start) := by
    have sign : bar.Yields library (Reader.advance 1 start)
        (.success (.char '|') (Reader.advance 2 start)) := Parser.yields_primitive_iff.mpr rfl
    exact .cons ((Parser.yields_sequence_of_success sign).mpr
      ⟨_, Parser.yields_primitive_iff.mpr rfl, rfl⟩) (.nil _)
  have due : Round.Due 1 (some 3) [] [⟨Reader.advance 1 start, .pair (.char '|') (.char 'a'),
      Reader.advance 3 start⟩] :=
    Round.due_cons.mpr ⟨by simp [Round.Complete, Round.StallAfter], Round.due_nil⟩
  have yields := ((laws 2 (some 4)).2.2.2.2 TextReader start (Reader.advance 3 start)).2.2 (by simp) _ _
    _ _ _ _ _ first round due (by simp) (Parser.yields_primitive_iff.mpr rfl)
    (Parser.yields_primitive_iff.mpr rfl)
  refine ⟨?_, ((laws 2 (some 4)).2.1 (by decide) true [0] [1] TextReader start .part {} {} _).mp ran,
    ((laws 0 none).2.2.1 (by simp) true true [0] [1] TextReader _ .part {} {} _).mp absent, yields, ?_⟩
  · exact ⟨_, _, ((laws 0 (some 0)).1 rfl TextReader start {} _ _ _).mpr ⟨rfl, rfl, rfl⟩⟩
  · exact ((laws 2 (some 4)).2.2.2.2 TextReader start (Reader.advance 3 start)).2.1 joined yields

end SafeDescent
