import SafeDescent.Parser.Text
import SafeDescent.Proofs.Parser.CommonPrefixes
import SafeDescent.Proofs.Parser.YieldRules
import SafeDescent.Proofs.Reader.Ahead

namespace SafeDescent

variable {ρ ε : Type} [Reader ρ ε] [Element ε] [DecidableEq ε]

theorem Parser.yields_element_of_first {library : Library ε} {x : ε} {r : ρ}
    (h : Reader.first r = some x) :
    (Parser.element x).Yields library r (.success (Element.toValue x) (Reader.rest r)) := by
  have read : Reader.read r = some (x, Reader.rest r) := Reader.read_eq_some_iff.mpr ⟨h, rfl⟩
  refine yields_primitive_iff.mpr ?_
  simp only [Primitive.run, read, decide_true, if_true]

theorem Parser.yields_element_of_ne {library : Library ε} {x : ε} {r : ρ}
    (h : Reader.first r ≠ some x) :
    (Parser.element x).Yields library r
      (.mismatch (.missing (Element.shown x) (Reader.first r)) r) := by
  refine yields_primitive_iff.mpr ?_
  cases found : Reader.first r with
  | none =>
    have read : Reader.read r = none := by rw [Reader.read, found, Option.map_none]
    rw [Primitive.run, read]
  | some y =>
    have read : Reader.read r = some (y, Reader.rest r) := Reader.read_eq_some_iff.mpr ⟨found, rfl⟩
    have other : ¬ y = x := fun same => h (found.trans (congrArg some same))
    simp only [Primitive.run, read, other, decide_false, Bool.false_eq_true, if_false]

variable [LawfulReader ρ ε]

open LawfulReader (ahead)

/-- Elements of a literal that stand ahead are read. -/
theorem matchLiteral_append (literal : List ε) {xs : List ε} (ys : List ε) {r : ρ}
    (h : xs <+: ahead r) :
    matchLiteral literal (xs ++ ys) r = matchLiteral literal ys (Reader.advance xs.length r) := by
  induction xs generalizing r with
  | nil => rfl
  | cons x xs ih =>
    obtain ⟨more, begins⟩ := h
    have read : Reader.read r = some (x, Reader.rest r) := by
      rw [Reader.read, LawfulReader.first_eq, ← begins]
      rfl
    have rest : xs <+: ahead (Reader.rest r) := by
      rw [LawfulReader.ahead_rest, ← begins]
      exact List.prefix_append xs more
    rw [List.cons_append, matchLiteral, read]
    simp only [if_true]
    exact ih rest

theorem matchLiteral_of_begins (literal : List ε) {xs : List ε} {r : ρ} (h : xs <+: ahead r) :
    matchLiteral literal xs r =
      .success (.text (Element.joined literal)) (Reader.advance xs.length r) := by
  have matched := matchLiteral_append literal [] h
  rwa [List.append_nil] at matched

/-- A literal fails at the first element that differs from what is ahead. -/
theorem matchLiteral_of_parts (literal : List ε) {xs common : List ε} {x : ε} {r : ρ}
    (h : Parts xs (ahead r) common x) :
    matchLiteral literal xs r =
      .mismatch (.missingIn literal x (Reader.first (Reader.advance common.length r)))
        (Reader.advance common.length r) := by
  obtain ⟨more, rfl⟩ := h.left
  have differs := h.differs
  rw [List.append_assoc, matchLiteral_append literal _ h.right, List.singleton_append, matchLiteral,
    Reader.read]
  rw [← Reader.first_advance] at differs
  cases found : Reader.first (Reader.advance common.length r) with
  | none => rfl
  | some y =>
    rw [found] at differs
    simp only [Option.map_some]
    rw [if_neg fun same => differs (congrArg some same)]

namespace Parser

/-- The parser matches the elements of a list in their order: by single elements and by literals, in a
sequence that is nested in any way and combines the values in any way. -/
inductive Spells : Parser ε → List ε → Prop
  | nothing (value : Value) : Spells (.succeed value) []
  | element (x : ε) : Spells (.element x) [x]
  | literal (xs : List ε) : Spells (.primitive (.literal xs)) xs
  | sequence (combine : Value → Value → Value) {first second : Parser ε} {xs ys : List ε} :
    Spells first xs → Spells second ys → Spells (.sequence combine first second) (xs ++ ys)

variable {parser parser' : Parser ε} {xs : List ε} {r : ρ}

/-- What is spelled is read if it stands ahead, and otherwise as far as it does. -/
theorem Spells.yields (h : parser.Spells xs) (library : Library ε) (r : ρ) :
    (xs <+: ahead r ∧
      ∃ value, parser.Yields library r (.success value (Reader.advance xs.length r))) ∨
    ∃ common x message, Parts xs (ahead r) common x ∧
      parser.Yields library r (.failure message (Reader.advance common.length r)) := by
  induction h generalizing r with
  | nothing value => exact .inl ⟨List.nil_prefix, value, yields_primitive_iff.mpr rfl⟩
  | element x =>
    by_cases first : Reader.first r = some x
    · obtain ⟨more, begins⟩ := List.head?_eq_some_iff.mp (LawfulReader.first_eq r ▸ first)
      exact .inl ⟨⟨more, begins.symm⟩, _, yields_element_of_first first⟩
    · have fails : (Parser.element x).Yields library r _ := yields_element_of_ne first
      refine .inr ⟨[], x, _, ⟨List.prefix_rfl, List.nil_prefix, ?_⟩, fails⟩
      rwa [LawfulReader.first_eq, List.head?_eq_getElem?] at first
  | literal xs =>
    rcases begins_or_parts xs (ahead r) with begins | ⟨common, x, h⟩
    · exact .inl ⟨begins, _, yields_primitive_iff.mpr (matchLiteral_of_begins xs begins).symm⟩
    · exact .inr ⟨common, x, _, h, yields_primitive_iff.mpr (matchLiteral_of_parts xs h).symm⟩
  | @sequence combine first second xs ys _ _ ihx ihy =>
    rcases ihx r with ⟨⟨rest, begins⟩, value, hfirst⟩ | ⟨common, x, message, h, hfirst⟩
    · have behind : ahead (Reader.advance xs.length r) = rest := by
        rw [Reader.ahead_advance, ← begins, List.drop_left]
      rcases ihy (Reader.advance xs.length r) with ⟨more, value', hsecond⟩ |
        ⟨common, x, message, h, hsecond⟩
      · rw [behind] at more
        refine .inl ⟨?_, combine value value', ?_⟩
        · rw [← begins]
          exact (List.prefix_append_right_inj xs).mpr more
        · rw [List.length_append, Reader.advance_add]
          exact yields_sequence_success_iff.mpr ⟨value, _, value', hfirst, hsecond, rfl⟩
      · rw [behind] at h
        refine .inr ⟨xs ++ common, x, message, ?_, ?_⟩
        · rw [← begins]
          exact h.append_left xs
        · rw [List.length_append, Reader.advance_add]
          exact (yields_sequence_of_success hfirst).mpr ⟨_, hsecond, rfl⟩
    · exact .inr ⟨common, x, message, h.append_right ys,
        (yields_sequence_of_stopped hfirst rfl).mpr rfl⟩

theorem Spells.yields_success_iff (h : parser.Spells xs) {library : Library ε} {r' : ρ} :
    (∃ value, parser.Yields library r (.success value r')) ↔
      xs <+: ahead r ∧ r' = Reader.advance xs.length r := by
  rcases h.yields library r with ⟨begins, value, yields⟩ | ⟨common, x, message, parts, yields⟩
  · constructor
    · rintro ⟨value', yields'⟩
      exact ⟨begins, (Outcome.success.inj (yields'.unique yields)).2⟩
    · rintro ⟨-, rfl⟩
      exact ⟨value, yields⟩
  · constructor
    · rintro ⟨value', yields'⟩
      cases yields'.unique yields
    · rintro ⟨begins, -⟩
      exact absurd begins parts.not_begins

theorem Spells.yields_failure_iff (h : parser.Spells xs) {library : Library ε} {r' : ρ} :
    (∃ message, parser.Yields library r (.failure message r')) ↔
      ∃ common x, Parts xs (ahead r) common x ∧ r' = Reader.advance common.length r := by
  rcases h.yields library r with ⟨begins, value, yields⟩ | ⟨common, x, message, parts, yields⟩
  · constructor
    · rintro ⟨message, yields'⟩
      cases yields'.unique yields
    · rintro ⟨common, x, parts, -⟩
      exact absurd begins parts.not_begins
  · constructor
    · rintro ⟨message', yields'⟩
      exact ⟨common, x, parts, (Outcome.failure.inj (yields'.unique yields)).2⟩
    · rintro ⟨common', x', parts', rfl⟩
      rw [parts'.longestCommonPrefix.unique parts.longestCommonPrefix]
      exact ⟨message, yields⟩

/-- Both parsers succeed, or both fail, and then they stop at the same position. -/
def EndsAlike (store : Store) (library : Library ε) (parser parser' : Parser ε) (r : ρ) : Prop :=
  ∀ r', ((∃ value, store.Answers library .part parser r (.success value r')) ↔
      ∃ value, store.Answers library .part parser' r (.success value r')) ∧
    ((∃ message, store.Answers library .part parser r (.failure message r')) ↔
      ∃ message, store.Answers library .part parser' r (.failure message r'))

theorem Spells.endsAlike (h : parser.Spells xs) (h' : parser'.Spells xs) (store : Store)
    (library : Library ε) (r : ρ) : EndsAlike store library parser parser' r := by
  intro r'
  simp only [Store.answers_part_iff_yields]
  exact ⟨h.yields_success_iff.trans h'.yields_success_iff.symm,
    h.yields_failure_iff.trans h'.yields_failure_iff.symm⟩

end Parser

end SafeDescent
