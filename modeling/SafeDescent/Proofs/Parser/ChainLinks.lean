import SafeDescent.Proofs.Parser.ChainRuns
import SafeDescent.Proofs.Parser.Iteration

namespace SafeDescent

variable {ρ ε : Type} [Reader ρ ε] [Element ε] [DecidableEq ε]

namespace Parser

variable {library : Library ε} {join : Value → Value → Value → Value} {bounds : Bounds}
  {operand separator : Parser ε} {input : ρ} {outcome : Outcome ρ Value}

/-- Separators and operands succeed in turn, each from where the one before it stopped. -/
inductive Links (library : Library ε) (operand separator : Parser ε) :
    ρ → List (Value × Value) → ρ → Prop
  | nil (input : ρ) : Links library operand separator input [] input
  | cons {input middle next r : ρ} {sign value : Value} {pairs : List (Value × Value)} :
      separator.Yields library input (.success sign middle) →
      operand.Yields library middle (.success value next) →
      Links library operand separator next pairs r →
        Links library operand separator input ((sign, value) :: pairs) r

variable {rounds : List (Round ρ)} {r : ρ} {min : Nat} {max : Option Nat}

theorem Iterates.links (h : Iterates library (.sequence Value.pair separator operand) input rounds r) :
    ∃ pairs, Links library operand separator input pairs r ∧ rounds.length = pairs.length ∧
      Round.values rounds = .operations pairs := by
  induction h with
  | nil input => exact ⟨[], .nil input, rfl, rfl⟩
  | cons yields _ ih =>
    obtain ⟨pairs, links, length, values⟩ := ih
    obtain ⟨head, hsign, ⟨stopped, rfl⟩ | ⟨sign, middle, other, rfl, hvalue, he⟩⟩ :=
      yields_sequence_iff.mp yields
    · cases stopped
    · cases other with
      | success value next =>
        obtain ⟨rfl, rfl⟩ := Outcome.success.inj he
        refine ⟨(sign, value) :: pairs, .cons hsign hvalue links, by simp [length], ?_⟩
        simpa [Round.values, Value.operations] using values
      | failure message next => cases he
      | error message next => cases he

theorem yields_chainLeft_of_stopped (room : max.map (Nat.max · min) ≠ some 0) {head : Outcome ρ Value}
    (h : operand.Yields library input head) (stopped : head.isSuccess = false) :
    (chainLeft join min max operand separator).Yields library input (head.orAbsent min input) :=
  yields_chain_iff.mpr (.inr ⟨room, head, h, .inl ⟨stopped, rfl⟩⟩)

theorem yields_chainLeft_iff_seq (needed : 1 ≤ min) :
    (chainLeft join min max operand separator).Yields library input outcome ↔
      (map (Value.joinOperations join) (operand.seq (repeated (min - 1)
        ((max.map (Nat.max · min)).map (· - 1)) (separator.seq operand)))).Yields library input
          outcome := by
  have room : (Bounds.between min max).max ≠ some 0 := by
    intro full
    have := (Bounds.between min max).min_le 0 full
    exact absurd needed (by simpa [Bounds.between] using this)
  have stays (head : Outcome ρ Value) : head.orAbsent (Bounds.between min max).min input = head := by
    cases head with
    | failure message r => exact if_neg (Nat.ne_of_gt needed)
    | success value r => rfl
    | error message r => rfl
  have joined (first : Value) (other : Outcome ρ Value) :
      (other.map (Value.pair first)).map (Value.joinOperations join) =
        other.map fun operations => .some (foldOperands join first operations) := by
    cases other <;> rfl
  rw [chainLeft, yields_chain_iff, Bounds.afterFirst_between, map, yields_adjust_iff]
  constructor
  · intro h
    obtain ⟨full, -⟩ | ⟨-, head, hhead, ⟨stopped, rfl⟩ | ⟨first, r, other, rfl, tail, rfl⟩⟩ := h
    · exact absurd full room
    · refine ⟨head, yields_sequence_iff.mpr ⟨head, hhead, .inl ⟨stopped, rfl⟩⟩, ?_⟩
      rw [stays]
      exact (Outcome.map_of_isSuccess_false stopped _).symm
    · exact ⟨_, yields_sequence_iff.mpr ⟨_, hhead, .inr ⟨first, r, other, rfl, tail, rfl⟩⟩,
        (joined first other).symm⟩
  · intro h
    obtain ⟨ended, sequence, rfl⟩ := h
    obtain ⟨head, hhead, ⟨stopped, rfl⟩ | ⟨first, r, other, rfl, tail, rfl⟩⟩ :=
      yields_sequence_iff.mp sequence
    · refine .inr ⟨room, ended, hhead, .inl ⟨stopped, ?_⟩⟩
      rw [stays]
      exact Outcome.map_of_isSuccess_false stopped _
    · exact .inr ⟨room, _, hhead, .inr ⟨first, r, other, rfl, tail, joined first other⟩⟩

theorem yields_chainLeft_iff_optional (room : max ≠ some 0) :
    (chainLeft join 0 max operand separator).Yields library input outcome ↔
      (map Value.flatten (optional (chainLeft join 1 max operand separator))).Yields library input
        outcome := by
  have room₀ : (Bounds.between 0 max).max ≠ some 0 := by simpa [Bounds.between] using room
  have room₁ : (Bounds.between 1 max).max ≠ some 0 := by
    intro full
    exact absurd ((Bounds.between 1 max).min_le 0 full) (by simp [Bounds.between])
  have tails : (Bounds.between 1 max).afterFirst = (Bounds.between 0 max).afterFirst := by
    cases max with
    | none => rfl
    | some most =>
      have raised : Nat.max most 1 = most := Nat.max_eq_left (by simp at room; omega)
      simp [Bounds.between, Bounds.afterFirst, raised]
  let relaxed (ended : Outcome ρ Value) : Outcome ρ Value :=
    (Adjustment.optional.apply input ended).map Value.flatten
  have first (head : Outcome ρ Value) (stopped : head.isSuccess = false) :
      relaxed (head.orAbsent 1 input) = head.orAbsent 0 input := by
    cases head with
    | success value r => cases stopped
    | failure message r => rfl
    | error message r => rfl
  -- The repetition behind the first operand may be empty, so it does not fail.
  have later {other : Outcome ρ Value} {r : ρ} (value : Value)
      (tail : (Parser.many (Bounds.between 0 max).afterFirst
        (.sequence Value.pair separator operand)).Yields library r other) :
      relaxed (other.map fun operations => .some (foldOperands join value operations)) =
        other.map fun operations => .some (foldOperands join value operations) := by
    cases other with
    | success value r => rfl
    | failure message r => exact absurd rfl (yields_many_ne_failure rfl tail message r)
    | error message r => rfl
  rw [map, yields_adjust_iff, optional, chainLeft, yields_chain_iff]
  constructor
  · intro h
    obtain ⟨full, -⟩ | ⟨-, head, hhead, ⟨stopped, rfl⟩ | ⟨value, r, other, rfl, tail, rfl⟩⟩ := h
    · exact absurd full room₀
    · refine ⟨_, yields_adjust_iff.mpr ⟨_, yields_chain_iff.mpr (.inr ⟨room₁, head, hhead,
        .inl ⟨stopped, rfl⟩⟩), rfl⟩, ?_⟩
      exact (first head stopped).symm
    · refine ⟨_, yields_adjust_iff.mpr ⟨_, yields_chain_iff.mpr (.inr ⟨room₁, _, hhead,
        .inr ⟨value, r, other, rfl, tails ▸ tail, rfl⟩⟩), rfl⟩, ?_⟩
      exact (later value tail).symm
  · intro h
    obtain ⟨_, inner, rfl⟩ := h
    obtain ⟨ended, chain, rfl⟩ := yields_adjust_iff.mp inner
    obtain ⟨full, -⟩ | ⟨-, head, hhead, ⟨stopped, rfl⟩ | ⟨value, r, other, rfl, tail, rfl⟩⟩ :=
      yields_chain_iff.mp chain
    · exact absurd full room₁
    · exact .inr ⟨room₀, head, hhead, .inl ⟨stopped, first head stopped⟩⟩
    · rw [tails] at tail
      exact .inr ⟨room₀, _, hhead, .inr ⟨value, r, other, rfl, tail, later value tail⟩⟩

/-- A value that is there comes from a first operand and the pairs of a separator and an operand
behind it, as many as the bounds allow. -/
theorem yields_chainLeft_some {v : Value}
    (h : (chainLeft join min max operand separator).Yields library input (.success (.some v) r)) :
    ∃ first middle pairs, operand.Yields library input (.success first middle) ∧
      Links library operand separator middle pairs r ∧ v = .joinLeft join first pairs ∧
      Nat.max min 1 ≤ pairs.length + 1 ∧
      ∀ most, max.map (Nat.max · min) = some most → pairs.length + 1 ≤ most := by
  obtain ⟨-, he⟩ | ⟨room, head, hhead, ⟨stopped, he⟩ | ⟨first, middle, other, rfl, tail, he⟩⟩ :=
    yields_chain_iff.mp h
  · cases (Outcome.success.inj he).1
  · cases head with
    | success value r => cases stopped
    | failure message r =>
      simp only [Outcome.orAbsent] at he
      split at he <;> cases he
    | error message r => cases he
  · cases other with
    | success operations stopped =>
      obtain ⟨hv, rfl⟩ := Outcome.success.inj he
      obtain ⟨rounds, iterates, rfl, enough, within⟩ := yields_many_success tail
      obtain ⟨pairs, links, length, values⟩ := iterates.links
      have joined : v = foldOperands join first (Round.values rounds) := Value.some.inj hv
      rw [values, foldOperands_operations] at joined
      refine ⟨first, middle, pairs, hhead, links, joined, ?_, fun most bound => ?_⟩
      · have : min - 1 ≤ rounds.length := enough
        have : Nat.max min 1 = min ∨ Nat.max min 1 = 1 := by grind
        omega
      · have below := within (most - 1) (by simp [Bounds.afterFirst, Bounds.between, bound])
        have : most ≠ 0 := fun zero => room (zero ▸ bound)
        omega
    | failure message stopped => cases he
    | error message stopped => cases he

/-- A separator behind which the operand fails is left unread, once there are enough operands. -/
theorem yields_chainLeft_of_rounds (room : max.map (Nat.max · min) ≠ some 0) {first : Value}
    {middle next stopped : ρ} {sign : Value} {message : String}
    (hfirst : operand.Yields library input (.success first middle))
    (iterates : Iterates library (.sequence Value.pair separator operand) middle rounds r)
    (due : Round.Due (min - 1) ((max.map (Nat.max · min)).map (· - 1)) [] rounds)
    (enough : min ≤ rounds.length + 1) (hsign : separator.Yields library r (.success sign next))
    (hfails : operand.Yields library next (.failure message stopped)) :
    (chainLeft join min max operand separator).Yields library input
      (.success (.some (foldOperands join first (Round.values rounds))) r) := by
  have fails : (Parser.sequence Value.pair separator operand).Yields library r
      (.failure message stopped) := (yields_sequence_of_success hsign).mpr ⟨_, hfails, rfl⟩
  have enough' : (Bounds.between min max).afterFirst.min ≤ rounds.length := by
    change min - 1 ≤ rounds.length
    omega
  have tail : (Parser.many (Bounds.between min max).afterFirst
      (.sequence Value.pair separator operand)).Yields library middle
      (.success (Round.values rounds) r) := by
    refine yields_many_iff.mpr ⟨rounds, r, iterates, due, ?_⟩
    by_cases complete : Round.Complete (Bounds.between min max).afterFirst.min
        (Bounds.between min max).afterFirst.max rounds
    · exact .inl ⟨complete, rfl⟩
    · exact .inr ⟨complete, _, rfl, fails, by simp only [Outcome.afterRounds, if_pos enough']⟩
  exact yields_chain_iff.mpr (.inr ⟨room, _, hfirst, .inr ⟨first, middle, _, rfl, tail, rfl⟩⟩)

end Parser

end SafeDescent
