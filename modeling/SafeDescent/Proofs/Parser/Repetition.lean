import SafeDescent.Proofs.Parser.Progress
import SafeDescent.Proofs.Parser.RunRules

namespace SafeDescent

open Reader

variable {ρ ε : Type} [Reader ρ ε]

/-- What holds of every round of a repetition: a round goes on from a later position, or there are
still too few values. The induction is on the elements ahead, and then on the missing values. -/
theorem Reader.round_induction (bounds : Bounds) {motive : ρ → Array Value → Prop}
    (round : ∀ n input values, Strict input → HoldsOnly n input →
      (∀ k value, Holds k input → (0 < k ∨ values.size + 1 < bounds.min) →
        motive (advance k input) (values.push value)) →
      motive input values)
    {n : Nat} {input : ρ} (strict : Strict input) (only : HoldsOnly n input)
    (values : Array Value) : motive input values := by
  induction n using Nat.strongRecOn generalizing input values with
  | ind n later =>
  induction hm : bounds.min - values.size using Nat.strongRecOn generalizing values with
  | ind missing fewer =>
    refine round n input values strict only ?_
    intro k value holds further
    have le := holds.le only
    by_cases moved : 0 < k
    · exact later (n - k) (by omega) (strict.advance holds) (only.after holds) _
    · obtain rfl : k = 0 := by omega
      have size : (values.push value).size = values.size + 1 := values.size_push value
      exact fewer _ (by omega) _ rfl

/-- A successful round ends the repetition, or the next one starts later or with too few values. -/
theorem afterRound_success (bounds : Bounds) (body : Parser ε) (values : Array Value)
    (value : Value) {start r : ρ} (reaches : Reaches start r) :
    afterRound bounds body values start (.success value r) =
        .done (.success (.list (values.push value).toList) r) ∨
      afterRound bounds body values start (.success value r) =
          .round bounds body (values.push value) r ∧
        ∃ k, r = advance k start ∧ Holds k start ∧ (0 < k ∨ values.size + 1 < bounds.min) := by
  obtain ⟨k, holds, rfl⟩ := reaches
  simp only [afterRound]
  split
  next => exact .inl rfl
  next goesOn =>
    refine .inr ⟨rfl, k, rfl, holds, ?_⟩
    by_cases moved : 0 < k
    · exact .inl moved
    · obtain rfl : k = 0 := by omega
      have few : ¬ bounds.min ≤ (values.push value).size := fun enough => goesOn ⟨rfl, enough⟩
      rw [values.size_push] at few
      exact .inr (Nat.lt_of_not_le few)

variable [Element ε] [DecidableEq ε]

theorem reaches_of_evaluates {library : Library ε} {parser : Parser ε} {input : ρ}
    {store last : Store} {starts : List (Start ρ ε)} {outcome : Outcome ρ Value}
    (h : (parsing library).Evaluates (.more ⟨parser, input⟩) store starts outcome last) :
    Reaches input outcome.remaining := by
  obtain ⟨fuel, run⟩ := Store.run_iff_runs.mpr ⟨starts, Parser.runs_iff_evaluates.mpr h⟩
  exact Store.run_reaches run

/-- A repetition that succeeds gives a list. Below the minimum every round counts; above it all
rounds but the last one have read an element. -/
theorem evaluates_round_length {library : Library ε} {bounds : Bounds} {body : Parser ε}
    {values : Array Value} {n : Nat} {input stopped : ρ} {store last : Store}
    {starts : List (Start ρ ε)} {value : Value} (strict : Strict input) (only : HoldsOnly n input)
    (h : (parsing library).Evaluates (Run.round bounds body values input) store starts
      (.success value stopped) last) :
    ∃ items, value = .list items ∧
      items.length ≤ max (max bounds.min 1) (values.size + 1) + n := by
  refine round_induction bounds (motive := fun input values => ∀ n store starts,
    HoldsOnly n input →
    (parsing library).Evaluates (Run.round bounds body values input) store starts
      (.success value stopped) last →
    ∃ items, value = .list items ∧
      items.length ≤ max (max bounds.min 1) (values.size + 1) + n)
    ?_ strict only values n store starts only h
  intro _ input values strict _ next n store starts only h
  unfold Run.round at h
  split at h
  next =>
    obtain ⟨-, he, -⟩ := Engine.evaluates_done_iff.mp h
    obtain ⟨rfl, -⟩ := Outcome.success.inj he
    refine ⟨_, rfl, ?_⟩
    rw [Array.length_toList]
    omega
  next =>
    obtain ⟨before, after, head, middle, -, hbody, hrest⟩ := Engine.evaluates_flatMap_iff.mp h
    change (parsing library).Evaluates (afterRound bounds body values input head) middle after
      (.success value stopped) last at hrest
    cases head with
    | success found r =>
      have reaches : Reaches input r := reaches_of_evaluates hbody
      rcases afterRound_success bounds body values found reaches with ends | ⟨goesOn, k, rfl, holds, further⟩
      · rw [ends] at hrest
        obtain ⟨-, he, -⟩ := Engine.evaluates_done_iff.mp hrest
        obtain ⟨rfl, -⟩ := Outcome.success.inj he
        refine ⟨_, rfl, ?_⟩
        rw [Array.length_toList, Array.size_push]
        omega
      · rw [goesOn] at hrest
        have le := holds.le only
        obtain ⟨items, rfl, bound⟩ :=
          next k found holds further (n - k) middle after (only.after holds) hrest
        rw [Array.size_push] at bound
        exact ⟨items, rfl, by omega⟩
    | failure message r =>
      simp only [afterRound] at hrest
      split at hrest
      · obtain ⟨-, he, -⟩ := Engine.evaluates_done_iff.mp hrest
        obtain ⟨rfl, -⟩ := Outcome.success.inj he
        refine ⟨_, rfl, ?_⟩
        rw [Array.length_toList]
        omega
      · obtain ⟨-, he, -⟩ := Engine.evaluates_done_iff.mp hrest
        cases he
    | error message r =>
      obtain ⟨-, he, -⟩ := Engine.evaluates_done_iff.mp hrest
      cases he

end SafeDescent
