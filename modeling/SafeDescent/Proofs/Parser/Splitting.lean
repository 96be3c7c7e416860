import SafeDescent.Parser.Text
import SafeDescent.Proofs.Parser.SplitRounds
import SafeDescent.Reader.Text

namespace SafeDescent

open Round

variable {ρ ε : Type} [Reader ρ ε] [Element ε] [DecidableEq ε]

namespace Parser

section

variable {library : Library ε} {body : Parser ε} {input r : ρ} {rounds more : List (Round ρ)}
  {limit : Option Nat} {outcome : Outcome ρ Value}

theorem yields_concat_iff {count : Nat} {following whole : Bounds}
    (hmin : whole.min = count + following.min) (hmax : whole.max = following.max.map (count + ·))
    (settled : ∀ rounds r, Iterates library body input rounds r → following.min = 0 →
      following.max = some 0 ∨ ¬ StallAfter 0 rounds) :
    (concat .list (repeated count (some count) body) (.many following body)).Yields library input
        outcome ↔
      (Parser.many whole body).Yields library input outcome := by
  have bounded : ∀ most, whole.max = some most → count + following.min ≤ most := by
    intro most he
    exact hmin ▸ whole.min_le most he
  rw [concat, yields_sequence_iff, yields_many_iff, hmin]
  constructor
  · intro h
    obtain ⟨head, first, second⟩ := h
    obtain ⟨rounds, middle, iterates, ⟨rfl, rfl⟩ | ⟨few, stopped, yields⟩⟩ := yields_exactly_iff.mp first
    -- All rounds that are needed first: those of the second loop follow them in one loop.
    · rcases second with ⟨stopped, -⟩ | ⟨value, r, other, he, second, rfl⟩
      · cases stopped
      · obtain ⟨rfl, rfl⟩ := Outcome.success.inj he
        obtain ⟨more, r, iterates', due, concludes⟩ := yields_many_iff.mp second
        have settled' := settled _ _ iterates
        rw [hmax]
        exact ⟨rounds ++ more, r, iterates_append.mpr ⟨middle, iterates, iterates'⟩,
          (due_append_iff settled' following.min_le).mpr due,
          (concludes_append settled').mpr ⟨other, concludes, rfl⟩⟩
    -- Too few rounds: the second loop does not start, and the one loop stops at the same round.
    · rcases second with ⟨-, rfl⟩ | ⟨value, r, other, rfl, -, -⟩
      · exact ⟨rounds, middle, iterates, due_of_length_le (by omega) bounded,
          (concludes_of_few (by omega) bounded).mpr ⟨stopped, yields⟩⟩
      · cases stopped
  · intro h
    obtain ⟨rounds, r, iterates, due, concludes⟩ := h
    by_cases few : rounds.length < count
    · obtain ⟨stopped, yields⟩ := (concludes_of_few (by omega) bounded).mp concludes
      have first : (repeated count (some count) body).Yields library input outcome :=
        yields_exactly_iff.mpr ⟨rounds, r, iterates, .inr ⟨few, stopped, yields⟩⟩
      exact ⟨outcome, first, .inl ⟨stopped, rfl⟩⟩
    -- The rounds are cut where the second loop takes over.
    · obtain ⟨first, more, rfl, rfl⟩ : ∃ first more, rounds = first ++ more ∧ first.length = count :=
        ⟨rounds.take count, rounds.drop count, (List.take_append_drop ..).symm, by simp; omega⟩
      obtain ⟨middle, iterates, iterates'⟩ := iterates_append.mp iterates
      have settled' := settled _ _ iterates
      rw [hmax] at due concludes
      have due' := (due_append_iff settled' following.min_le).mp due
      obtain ⟨other, concludes', rfl⟩ := (concludes_append settled').mp concludes
      exact ⟨_, yields_exactly_iff.mpr ⟨first, middle, iterates, .inl ⟨rfl, rfl⟩⟩,
        .inr ⟨_, _, other, rfl, yields_many_iff.mpr ⟨more, r, iterates', due', concludes'⟩, rfl⟩⟩

/-- To have a value before a list is to join it, as one round, to the list. -/
theorem yields_prepend_iff {second : Parser ε} :
    (prepend .list body second).Yields library input outcome ↔
      (concat .list (repeated 1 (some 1) body) second).Yields library input outcome := by
  have joined (value : Value) : Shape.list.concat (.list [value]) = Shape.list.prepend value := rfl
  rw [prepend, concat, yields_sequence_iff, yields_sequence_iff]
  constructor
  · intro h
    obtain ⟨head, first, ⟨stopped, rfl⟩ | ⟨value, r, other, rfl, second, rfl⟩⟩ := h
    · exact ⟨outcome, yields_exactly_iff.mpr ⟨[], input, .nil input, .inr ⟨Nat.one_pos, stopped, first⟩⟩,
        .inl ⟨stopped, rfl⟩⟩
    · have once : Iterates library body input [⟨input, value, r⟩] r := .cons first (.nil r)
      refine ⟨_, yields_exactly_iff.mpr ⟨_, r, once, .inl ⟨rfl, rfl⟩⟩,
        .inr ⟨_, r, other, rfl, second, ?_⟩⟩
      rw [← joined, Round.values, List.map_singleton]
  · intro h
    obtain ⟨head, first, second⟩ := h
    obtain ⟨rounds, middle, iterates, ⟨full, rfl⟩ | ⟨few, stopped, yields⟩⟩ := yields_exactly_iff.mp first
    · obtain ⟨round, rfl⟩ := List.length_eq_one_iff.mp full
      cases iterates with
      | cons yields none =>
        cases none
        rcases second with ⟨stopped, -⟩ | ⟨value, r, other, he, second, rfl⟩
        · cases stopped
        · obtain ⟨rfl, rfl⟩ := Outcome.success.inj he
          refine ⟨_, yields, .inr ⟨_, _, other, rfl, second, ?_⟩⟩
          rw [← joined, Round.values, List.map_singleton]
    · obtain rfl : rounds = [] := List.length_eq_zero_iff.mp (by omega)
      cases iterates
      rcases second with ⟨-, rfl⟩ | ⟨value, r, other, rfl, -, -⟩
      · exact ⟨outcome, yields, .inl ⟨stopped, rfl⟩⟩
      · cases stopped

/-- Repetitions give their parser a place that holds it, wherever they stand themselves. -/
theorem yields_concat_place_iff {count least : Nat} {most : Option Nat} {kept : Bool} {path : List Nat}
    (path' : List Nat) :
    ((concat .list (repeated count limit body) (repeated least most body)).place kept path).Yields
        library input outcome ↔
      (concat .list (repeated count limit (body.place true path'))
        (repeated least most (body.place true path'))).Yields library input outcome := by
  have alike := body.madeOf_anything.alike
  exact yields_iff_of_alike (.sequence (.many (alike.place ..)) (.many (alike.place ..)))

theorem yields_prepend_place_iff {path : List Nat} (path' : List Nat) :
    ((prepend .list body (repeated 0 none body)).place true path).Yields library input outcome ↔
      (prepend .list (body.place true path') (repeated 0 none (body.place true path'))).Yields library
        input outcome := by
  have alike := body.madeOf_anything.alike
  exact yields_iff_of_alike (.sequence (alike.place ..) (.many (alike.place ..)))

end

end Parser

/-- Repetitions split. A fixed number of rounds and then another fixed number, with the lists
joined, are equivalent to as many rounds as both together. If the parser never succeeds where it
started, a fixed number of rounds and then any number, or any number up to a bound, answer like the
repetition with both bounds moved up by the number; and so the parser before a repetition without
bounds answers like the repetition with at least one round. There the first use of the parser is
held while it runs, as repetitions hold what they repeat. -/
theorem repetitions_split {ε : Type} [Element ε] [DecidableEq ε] (library : Library ε)
    (body : Parser ε) :
    (∀ (first second : Nat) (kept : Bool) (path path' : List Nat),
      Parser.Equivalent library
        ((Parser.concat .list (.repeated first (some first) body)
          (.repeated second (some second) body)).place kept path)
        ((Parser.repeated (first + second) (some (first + second)) body).place kept path')) ∧
    ∀ (ρ : Type) [Reader ρ ε], (body.place true []).Moves ρ library →
      (∀ (first : Nat) (most : Option Nat) (kept : Bool) (path path' : List Nat) (input : ρ),
        Parser.Agree library
          ((Parser.concat .list (.repeated first (some first) body)
            (.repeated 0 most body)).place kept path)
          ((Parser.repeated first (most.map (first + ·)) body).place kept path') input) ∧
      ∀ (path path' : List Nat) (input : ρ),
        Parser.Agree library ((Parser.prepend .list body (.repeated 0 none body)).place true path)
          ((Parser.repeated 1 none body).place true path') input := by
  refine ⟨?_, ?_⟩
  · intro first second kept path path' ρ _ input
    refine Parser.agree_of_yields fun outcome => ?_
    rw [Parser.yields_concat_place_iff [], Parser.yields_repeated_place_iff []]
    have fixed : (Bounds.between second (some second)).max = some second := by
      simp [Bounds.between]
    refine Parser.yields_concat_iff rfl (by simp [Bounds.between]) ?_
    intro rounds r _ none
    exact .inl (by rw [fixed, show second = 0 from none])
  · intro ρ _ moves
    refine ⟨?_, ?_⟩
    · intro first most kept path path' input
      refine Parser.agree_of_yields fun outcome => ?_
      rw [Parser.yields_concat_place_iff [], Parser.yields_repeated_place_iff []]
      refine Parser.yields_concat_iff rfl (by cases most <;> simp [Bounds.between]) ?_
      intro rounds r iterates _
      exact .inr (iterates.not_stallAfter moves 0)
    · intro path path' input
      refine Parser.agree_of_yields fun outcome => ?_
      rw [Parser.yields_prepend_place_iff [], Parser.yields_repeated_place_iff [],
        Parser.yields_prepend_iff]
      refine Parser.yields_concat_iff rfl rfl ?_
      intro rounds r iterates _
      exact .inr (iterates.not_stallAfter moves 0)

/-- Two letters and then at most one more, where two or three may stand. -/
theorem repetitions_split_letters :
    let library : Library Char := fun _ => none
    let letter : Parser Char := .character 'a'
    let start := TextReader.ofString "aaab"
    letter.Moves TextReader library ∧
      ({} : Store).Answers library .part
        ((Parser.concat .list (.repeated 2 (some 2) letter) (.repeated 0 (some 1) letter)).place true [0])
        start (.success (.list [.char 'a', .char 'a', .char 'a']) (Reader.advance 3 start)) := by
  intro library letter start
  have moves : letter.Moves TextReader library := (Parser.consumes_satisfy _ _).moves
  have whole : ({} : Store).Answers library .part ((Parser.repeated 2 (some 3) letter).place true [1])
      start (.success (.list [.char 'a', .char 'a', .char 'a']) (Reader.advance 3 start)) :=
    ⟨20, _, _, rfl, rfl⟩
  have split := ((repetitions_split library letter).2 TextReader moves).1 2 (some 1) true [0] [1] start
  exact ⟨moves, (split .part {} {} _).mpr whole⟩

end SafeDescent
