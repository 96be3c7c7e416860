import SafeDescent.Parser.Combinators
import SafeDescent.Proofs.Parser.YieldRules

namespace SafeDescent

/-- Separators and the operands behind them, as a repetition of pairs has them for its value. -/
def Value.operations (pairs : List (Value × Value)) : Value :=
  .list (pairs.map fun (sign, operand) => .pair sign operand)

/-- The operands behind the first one are joined to it from the left, each by its separator. -/
def Value.joinLeft (join : Value → Value → Value → Value) (first : Value)
    (pairs : List (Value × Value)) : Value :=
  pairs.foldl (fun joined (sign, operand) => join sign joined operand) first

/-- A first operand and the operations behind it, joined from the left. Other values stay. -/
def Value.joinOperations (join : Value → Value → Value → Value) : Value → Value
  | .tuple [first, operations] => .some (foldOperands join first operations)
  | v => v

/-- The value that is there, if one is. -/
def Value.flatten : Value → Value
  | .some v => v
  | v => v

theorem foldOperands_operations (join : Value → Value → Value → Value) (first : Value)
    (pairs : List (Value × Value)) :
    foldOperands join first (.operations pairs) = .joinLeft join first pairs := by
  simp only [foldOperands, Value.operations, Value.joinLeft, Value.items, List.foldl_map, Value.pair]

variable {ρ ε : Type}

/-- What is made of a first operand that does not succeed. A failure is no operand, where none is
needed. -/
def Outcome.orAbsent (min : Nat) (start : ρ) : Outcome ρ Value → Outcome ρ Value
  | .failure message r => if min = 0 then .success .none start else .failure message r
  | outcome => outcome

theorem afterOperand_of_isSuccess_false {join : Value → Value → Value → Value} {bounds : Bounds}
    {operand separator : Parser ε} {start : ρ} {head : Outcome ρ Value}
    (stopped : head.isSuccess = false) :
    afterOperand join bounds operand separator start head = .done (head.orAbsent bounds.min start) := by
  cases head with
  | success value r => cases stopped
  | failure message r =>
    simp only [afterOperand, Outcome.orAbsent]
    split <;> rfl
  | error message r => rfl

theorem Bounds.afterFirst_between (min : Nat) (max : Option Nat) :
    (between min max).afterFirst = between (min - 1) ((max.map (Nat.max · min)).map (· - 1)) := by
  cases max with
  | none => rfl
  | some most =>
    have raised : min - 1 ≤ Nat.max most min - 1 :=
      Nat.sub_le_sub_right (Nat.le_max_right most min) 1
    simpa [afterFirst, between] using (Nat.max_eq_left raised).symm

variable [Reader ρ ε] [Element ε] [DecidableEq ε]

namespace Parser

variable {library : Library ε} {join : Value → Value → Value → Value} {bounds : Bounds}
  {operand separator : Parser ε} {input : ρ} {outcome : Outcome ρ Value} {store last : Store}
  {starts : List (Start ρ ε)}

/-- A chain without room for an operand ends at once. Any other one runs its operand, and after a
success the repetition of a separator and an operand, from where the first operand stopped. -/
theorem runs_chain_iff :
    (Parser.chain join bounds operand separator).Runs library input store starts outcome last ↔
      (bounds.max = some 0 ∧ outcome = .success .none input ∧ last = store ∧
          starts = [⟨.chain join bounds operand separator, input⟩]) ∨
        bounds.max ≠ some 0 ∧ ∃ tried head middle, operand.Runs library input store tried head middle ∧
          ((head.isSuccess = false ∧ outcome = head.orAbsent bounds.min input ∧ last = middle ∧
              starts = ⟨.chain join bounds operand separator, input⟩ :: tried) ∨
            ∃ value r more other, head = .success value r ∧
              (Parser.many bounds.afterFirst (.sequence Value.pair separator operand)).Runs library r
                middle more other last ∧
              outcome = other.map (fun operations => .some (foldOperands join value operations)) ∧
              starts = ⟨.chain join bounds operand separator, input⟩ :: (tried ++ more)) := by
  by_cases full : bounds.max = some 0
  · have called : (parsing library).call ⟨.chain join bounds operand separator, input⟩ store =
        (.done (.success .none input), store) := by
      simp [parsing, Start.call, full]
    rw [runs_iff_done called]
    simp [full]
  have called : (parsing library).call ⟨.chain join bounds operand separator, input⟩ store =
      (Run.start operand input (.opening join bounds operand separator input), store) := by
    simp [parsing, Start.call, full]
  rw [runs_iff_framed called]
  simp only [full, false_and, false_or, ne_eq, not_false_eq_true, true_and]
  constructor
  · intro h
    obtain ⟨tried, head, middle, rest, hoperand, hrest, rfl⟩ := h
    refine ⟨tried, head, middle, hoperand, ?_⟩
    change (parsing library).Evaluates (afterOperand join bounds operand separator input head) middle
      rest outcome last at hrest
    by_cases stopped : head.isSuccess = false
    · rw [afterOperand_of_isSuccess_false stopped] at hrest
      obtain ⟨rfl, rfl, rfl⟩ := Engine.evaluates_done_iff.mp hrest
      exact .inl ⟨stopped, rfl, rfl, by simp⟩
    · cases head with
      | success value r =>
        obtain ⟨other, hmany, rfl⟩ := (evaluates_start_iff fun _ _ => rfl).mp hrest
        exact .inr ⟨value, r, rest, other, rfl, hmany, rfl, rfl⟩
      | failure message r => exact absurd rfl stopped
      | error message r => exact absurd rfl stopped
  · intro h
    obtain ⟨tried, head, middle, hoperand, ⟨stopped, rfl, rfl, rfl⟩ |
      ⟨value, r, more, other, rfl, hmany, rfl, rfl⟩⟩ := h
    · refine ⟨tried, head, last, [], hoperand, ?_, by simp⟩
      change (parsing library).Evaluates (afterOperand join bounds operand separator input head) last
        [] _ last
      rw [afterOperand_of_isSuccess_false stopped]
      exact .done _ _
    · exact ⟨tried, _, middle, more, hoperand,
        (evaluates_start_iff fun _ _ => rfl).mpr ⟨other, hmany, rfl⟩, rfl⟩

theorem yields_chain_iff :
    (Parser.chain join bounds operand separator).Yields library input outcome ↔
      (bounds.max = some 0 ∧ outcome = .success .none input) ∨
        bounds.max ≠ some 0 ∧ ∃ head, operand.Yields library input head ∧
          (head.isSuccess = false ∧ outcome = head.orAbsent bounds.min input ∨
            ∃ value r other, head = .success value r ∧
              (Parser.many bounds.afterFirst (.sequence Value.pair separator operand)).Yields library r
                other ∧
              outcome = other.map fun operations => .some (foldOperands join value operations)) := by
  constructor
  · intro h
    obtain ⟨starts, last, runs⟩ := h
    obtain ⟨full, he, -⟩ | ⟨room, tried, head, middle, run, ⟨stopped, he, -⟩ |
      ⟨value, r, more, other, rfl, hmany, he, -⟩⟩ := runs_chain_iff.mp runs
    · exact .inl ⟨full, he⟩
    · exact .inr ⟨room, head, run.yields, .inl ⟨stopped, he⟩⟩
    · exact .inr ⟨room, _, run.yields, .inr ⟨value, r, other, rfl, hmany.yields, he⟩⟩
  · intro h
    obtain ⟨full, he⟩ | ⟨room, head, ⟨tried, middle, run⟩, ⟨stopped, he⟩ |
      ⟨value, r, other, rfl, hmany, he⟩⟩ := h
    · exact ⟨_, _, runs_chain_iff.mpr (.inl ⟨full, he, rfl, rfl⟩)⟩
    · exact ⟨_, middle, runs_chain_iff.mpr
        (.inr ⟨room, tried, head, middle, run, .inl ⟨stopped, he, rfl, rfl⟩⟩)⟩
    · obtain ⟨more, last, hmany⟩ := hmany.runs middle
      exact ⟨_, last, runs_chain_iff.mpr
        (.inr ⟨room, tried, _, middle, run, .inr ⟨value, r, more, other, rfl, hmany, he, rfl⟩⟩)⟩

end Parser

end SafeDescent
