import SafeDescent.Proofs.Parser.Progress
import SafeDescent.Proofs.Parser.YieldRules

namespace SafeDescent

variable {ρ ε : Type} [Reader ρ ε]

namespace Outcome

variable {α β : Type} {message other kept : String} {stopped r last : ρ}

theorem furthest_failure_of_le (le : Reader.offset r ≤ Reader.offset stopped) :
    (.failure other r : Outcome ρ α).furthest message stopped = .failure message stopped := by
  rw [furthest_failure, if_neg (Nat.not_lt_of_le le)]

/-- Of two failures the comparison keeps one. -/
theorem exists_furthest_failure (message other : String) (stopped r : ρ) :
    ∃ kept last, (.failure other r : Outcome ρ α).furthest message stopped = .failure kept last := by
  rw [furthest_failure]
  split
  · exact ⟨other, r, rfl⟩
  · exact ⟨message, stopped, rfl⟩

/-- An outcome after two failures can be compared with the second one first, or with the one that is
kept of the two. -/
theorem furthest_furthest (outcome : Outcome ρ α)
    (h : (.failure other r : Outcome ρ α).furthest message stopped = .failure kept last) :
    (outcome.furthest other r).furthest message stopped = outcome.furthest kept last := by
  by_cases further : Reader.offset stopped < Reader.offset r
  · rw [furthest_failure, if_pos further] at h
    obtain ⟨rfl, rfl⟩ := failure.inj h
    cases outcome with
    | success value r' => rfl
    | failure third r' => grind [furthest_failure]
    | error third r' => grind [furthest_failure, furthest_error]
  · rw [furthest_failure, if_neg further] at h
    obtain ⟨rfl, rfl⟩ := failure.inj h
    cases outcome with
    | success value r' => rfl
    | failure third r' => grind [furthest_failure]
    | error third r' => grind [furthest_failure, furthest_error]

/-- A value can be changed before or after the comparison. -/
theorem furthest_map (f : α → β) (outcome : Outcome ρ α) :
    (outcome.map f).furthest message stopped = (outcome.furthest message stopped).map f := by
  cases outcome with
  | success value r => rfl
  | failure other r => grind [map, furthest_failure]
  | error other r => grind [map, furthest_failure, furthest_error]

end Outcome

namespace Parser

variable [Element ε] [DecidableEq ε] {library : Library ε} {first second third parser : Parser ε}
  {input : ρ} {outcome : Outcome ρ Value} {message : String}

theorem Yields.reaches (h : parser.Yields library input outcome) :
    Reader.Reaches input outcome.remaining := by
  obtain ⟨starts, last, runs⟩ := h
  obtain ⟨fuel, run⟩ := Store.run_iff_runs.mpr ⟨starts, runs⟩
  exact Store.run_reaches run

theorem Yields.offset_le (h : parser.Yields library input outcome) (forward : Reader.Forward input) :
    Reader.offset input ≤ Reader.offset outcome.remaining :=
  h.reaches.offset_le forward

/-- Parsers that both need the outcome of a third one can be compared for each outcome of it. -/
theorem yields_iff_of_first (first : Parser ε) {parser parser' : Parser ε} (start : ρ)
    (needs : parser.Yields library input outcome → ∃ head, first.Yields library start head)
    (needs' : parser'.Yields library input outcome → ∃ head, first.Yields library start head)
    (same : ∀ head, first.Yields library start head →
      (parser.Yields library input outcome ↔ parser'.Yields library input outcome)) :
    parser.Yields library input outcome ↔ parser'.Yields library input outcome := by
  constructor
  · intro h
    obtain ⟨head, hfirst⟩ := needs h
    exact (same head hfirst).mp h
  · intro h
    obtain ⟨head, hfirst⟩ := needs' h
    exact (same head hfirst).mpr h

theorem yields_choice_assoc
    (calm : ∀ message r, ¬ second.Yields library input (.error message r)) :
    (Parser.choice (.choice first second) third).Yields library input outcome ↔
      (Parser.choice first (.choice second third)).Yields library input outcome := by
  refine yields_iff_of_first first input (fun h => ?_) Yields.choice_first fun head hfirst => ?_
  · obtain ⟨head, h⟩ := h.choice_first
    exact h.choice_first
  by_cases settled : ∀ message stopped, head ≠ .failure message stopped
  · have both : (Parser.choice first second).Yields library input head :=
      (yields_choice_of_settled hfirst settled).mpr rfl
    rw [yields_choice_of_settled hfirst settled, yields_choice_of_settled both settled]
  obtain ⟨message, stopped, rfl⟩ : ∃ message stopped, head = .failure message stopped := by
    simpa using settled
  refine yields_iff_of_first second input (fun h => ?_) (fun h => ?_) fun other hsecond => ?_
  · obtain ⟨head, h⟩ := h.choice_first
    obtain ⟨other, hsecond, -⟩ := (yields_choice_of_failure hfirst).mp h
    exact ⟨other, hsecond⟩
  · obtain ⟨other, h, -⟩ := (yields_choice_of_failure hfirst).mp h
    exact h.choice_first
  have both := (yields_choice_of_failure hfirst).mpr ⟨other, hsecond, rfl⟩
  rw [yields_choice_of_failure hfirst]
  cases other with
  | success value r =>
    rw [Outcome.furthest_success] at both
    have settled' : ∀ message stopped, Outcome.success value r ≠ .failure message stopped := by simp
    rw [yields_choice_of_settled both settled']
    simp only [yields_choice_of_settled hsecond settled', exists_eq_left, Outcome.furthest_success]
  | failure message' r =>
    obtain ⟨kept, last, he⟩ := Outcome.exists_furthest_failure (α := Value) message message' stopped r
    rw [he] at both
    rw [yields_choice_of_failure both]
    simp only [yields_choice_of_failure hsecond]
    constructor
    · intro h
      obtain ⟨third, hthird, rfl⟩ := h
      exact ⟨_, ⟨third, hthird, rfl⟩, (third.furthest_furthest he).symm⟩
    · intro h
      obtain ⟨_, ⟨third, hthird, rfl⟩, rfl⟩ := h
      exact ⟨third, hthird, third.furthest_furthest he⟩
  | error message' r => exact absurd hsecond (calm message' r)

theorem yields_choice_sequence {combine : Value → Value → Value} :
    (Parser.choice (.sequence combine first second) (.sequence combine first third)).Yields library
        input outcome ↔
      (Parser.sequence combine first (.choice second third)).Yields library input outcome := by
  refine yields_iff_of_first first input (fun h => ?_) Yields.sequence_first fun head hfirst => ?_
  · obtain ⟨head, h⟩ := h.choice_first
    exact h.sequence_first
  cases head with
  | failure message stopped =>
    -- The first parser runs again and fails again, and no further.
    have again {parser : Parser ε} {other : Outcome ρ Value} :
        (Parser.sequence combine first parser).Yields library input other ↔
          other = .failure message stopped := yields_sequence_of_stopped hfirst rfl
    rw [yields_choice_of_failure (again.mpr rfl), again]
    simp only [again, exists_eq_left, Outcome.furthest_failure_of_le (Nat.le_refl _)]
  | error message r =>
    have again : (Parser.sequence combine first second).Yields library input (.error message r) :=
      (yields_sequence_of_stopped hfirst rfl).mpr rfl
    rw [yields_choice_of_settled again (by simp), yields_sequence_of_stopped hfirst rfl]
  | success value r =>
    have after {parser : Parser ε} {whole : Outcome ρ Value} :
        (Parser.sequence combine first parser).Yields library input whole ↔
          ∃ other, parser.Yields library r other ∧ whole = other.map (combine value) :=
      yields_sequence_of_success hfirst
    refine yields_iff_of_first second r (fun h => ?_) (fun h => ?_) fun other hsecond => ?_
    · obtain ⟨head, h⟩ := h.choice_first
      obtain ⟨other, hsecond, -⟩ := after.mp h
      exact ⟨other, hsecond⟩
    · obtain ⟨other, h, -⟩ := after.mp h
      exact h.choice_first
    have both := after.mpr ⟨other, hsecond, rfl⟩
    rw [after]
    cases other with
    | success value' r' =>
      rw [yields_choice_of_settled both (by simp [Outcome.map])]
      simp only [yields_choice_of_settled hsecond (by simp), exists_eq_left]
    | error message r' =>
      rw [yields_choice_of_settled both (by simp [Outcome.map])]
      simp only [yields_choice_of_settled hsecond (by simp), exists_eq_left]
    | failure message stopped =>
      rw [yields_choice_of_failure both]
      simp only [yields_choice_of_failure hsecond, after]
      constructor
      · intro h
        obtain ⟨_, ⟨third, hthird, rfl⟩, rfl⟩ := h
        exact ⟨_, ⟨third, hthird, rfl⟩, third.furthest_map _⟩
      · intro h
        obtain ⟨_, ⟨third, hthird, rfl⟩, rfl⟩ := h
        exact ⟨_, ⟨third, hthird, rfl⟩, (third.furthest_map _).symm⟩

/-- A second alternative that never gets further than the first one makes no difference. -/
theorem yields_choice_iff_first (idle : ∀ message stopped,
    first.Yields library input (.failure message stopped) → ∃ other, second.Yields library input other ∧
      other.furthest message stopped = .failure message stopped) :
    (Parser.choice first second).Yields library input outcome ↔
      first.Yields library input outcome := by
  refine yields_iff_of_first first input Yields.choice_first (⟨outcome, ·⟩) fun head hfirst => ?_
  have alone : first.Yields library input outcome ↔ outcome = head :=
    ⟨fun h => h.unique hfirst, fun he => he ▸ hfirst⟩
  rw [alone]
  cases head with
  | success value r => exact yields_choice_of_settled hfirst (by simp)
  | error message r => exact yields_choice_of_settled hfirst (by simp)
  | failure message stopped =>
    obtain ⟨other, hsecond, kept⟩ := idle message stopped hfirst
    rw [yields_choice_of_failure hfirst]
    constructor
    · intro h
      obtain ⟨other', hsecond', rfl⟩ := h
      rw [hsecond'.unique hsecond, kept]
    · intro he
      exact ⟨other, hsecond, he.trans kept.symm⟩

theorem yields_choice_fail (forward : Reader.Forward input) :
    (Parser.choice parser (.fail message)).Yields library input outcome ↔
      parser.Yields library input outcome := by
  refine yields_choice_iff_first fun message' stopped h => ?_
  exact ⟨.failure message input, yields_primitive_iff.mpr rfl,
    Outcome.furthest_failure_of_le (h.offset_le forward)⟩

theorem yields_choice_self :
    (Parser.choice parser parser).Yields library input outcome ↔
      parser.Yields library input outcome :=
  yields_choice_iff_first fun message stopped h =>
    ⟨.failure message stopped, h, Outcome.furthest_failure_of_le (Nat.le_refl _)⟩

end Parser

end SafeDescent
