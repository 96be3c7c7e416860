import SafeDescent.Proofs.Parser.GroundedParsers
import SafeDescent.Proofs.Parser.Repetition

namespace SafeDescent

open Reader

variable {ρ ε : Type} [Reader ρ ε] [Element ε] [DecidableEq ε]

namespace Parser

/-- The parser only succeeds after it has read an element, on inputs that end and on which offsets
grow. -/
def Consumes (ρ : Type) [Reader ρ ε] (library : Library ε) (parser : Parser ε) : Prop :=
  ∀ (input stopped : ρ) (n fuel : Nat) (store last : Store) (value : Value),
    Strict input → HoldsOnly n input →
      store.run library fuel parser input = some (.success value stopped, last) →
        ∃ k, 0 < k ∧ Holds k input ∧ stopped = advance k input

/-- The parser ends wherever at most `n` elements are ahead. -/
def EndsWithin (ρ : Type) [Reader ρ ε] (library : Library ε) (n : Nat) (parser : Parser ε) :
    Prop :=
  ∀ m ≤ n, ∀ input : ρ, Strict input → HoldsOnly m input → ∀ store,
    (parsing library).Ends (.more ⟨parser, input⟩) store

variable {library : Library ε} {n m : Nat} {parser first second body : Parser ε} {input : ρ}
  {store : Store}

theorem EndsWithin.after {stopped : ρ} (h : EndsWithin ρ library n parser) (le : m ≤ n)
    (strict : Strict input) (only : HoldsOnly m input) (reaches : Reaches input stopped)
    (store : Store) : (parsing library).Ends (.more ⟨parser, stopped⟩) store := by
  obtain ⟨k, holds, rfl⟩ := reaches
  exact h (m - k) (by omega) _ (strict.advance holds) (only.after holds) store

/-- Two parsers in a row. -/
theorem ends_following (combine : Value → Value → Value)
    (h : (parsing library).Ends (.more ⟨first, input⟩) store)
    (then' : ∀ calls value stopped middle, (parsing library).Evaluates (.more ⟨first, input⟩) store
      calls (.success value stopped) middle →
        (parsing library).Ends (.more ⟨second, stopped⟩) middle) :
    (parsing library).Ends (Run.start first input (.following combine second)) store := by
  refine h.flatMap fun calls outcome middle evaluates => ?_
  cases outcome with
  | success value stopped =>
    exact (then' calls value stopped middle evaluates).flatMap fun _ _ _ _ => .done _ _
  | failure message stopped => exact .done _ _
  | error message stopped => exact .done _ _

theorem EndsWithin.sequence {combine : Value → Value → Value}
    (h₁ : EndsWithin ρ library n first) (h₂ : EndsWithin ρ library n second) :
    EndsWithin ρ library n (.sequence combine first second) := by
  intro m le input strict only store
  refine .more (ends_following combine (h₁ m le input strict only store) ?_)
  intro calls value stopped middle evaluates
  exact h₂.after le strict only (reaches_of_evaluates evaluates) middle

theorem EndsWithin.round (h : EndsWithin ρ library n body) (bounds : Bounds) (le : m ≤ n)
    (strict : Strict input) (only : HoldsOnly m input) (values : Array Value) (store : Store) :
    (parsing library).Ends (Run.round bounds body values input) store := by
  refine round_induction bounds (motive := fun input values => ∀ m ≤ n, HoldsOnly m input →
    ∀ store, (parsing library).Ends (Run.round bounds body values input) store)
    ?_ strict only values m le only store
  intro _ input values strict _ next m le only store
  unfold Run.round
  split
  · exact .done _ _
  · refine (h m le input strict only store).flatMap fun calls outcome middle evaluates => ?_
    change (parsing library).Ends (afterRound bounds body values input outcome) middle
    cases outcome with
    | success value r =>
      have reaches : Reaches input r := reaches_of_evaluates evaluates
      rcases afterRound_success bounds body values value reaches with
        ends | ⟨goesOn, k, rfl, holds, further⟩
      · rw [ends]
        exact .done _ _
      · rw [goesOn]
        exact next k value holds further (m - k) (by omega) (only.after holds) middle
    | failure message r =>
      simp only [afterRound]
      split <;> exact .done _ _
    | error message r => exact .done _ _

theorem EndsWithin.many (h : EndsWithin ρ library n body) (bounds : Bounds) :
    EndsWithin ρ library n (.many bounds body) :=
  fun _ le _ strict only store => .more (h.round bounds le strict only #[] store)

/-- What is known of the parts of a parser when its ends are counted down: parts that it exposes
end on the same inputs, and all parts end on shorter ones. -/
structure PartsEnd (ρ : Type) [Reader ρ ε] (library : Library ε) (n : Nat) (parser : Parser ε) :
    Prop where
  exposed : ∀ other, Exposes library (Consumes ρ library) parser other →
    EndsWithin ρ library n other
  shorter : ∀ guard other, Part library parser guard other → ∀ k < n, EndsWithin ρ library k other

theorem PartsEnd.unguarded {other : Parser ε} (h : PartsEnd ρ library n parser)
    (part : Part library parser none other) : EndsWithin ρ library n other :=
  h.exposed other part.exposes

/-- After its guard a part ends: the guard has read an element, or the part is exposed. -/
theorem PartsEnd.guarded {before other : Parser ε} (h : PartsEnd ρ library n parser)
    (part : Part library parser (some before) other) (le : m ≤ n) (strict : Strict input)
    (only : HoldsOnly m input) {calls : List (Start ρ ε)} {value : Value} {stopped : ρ}
    {middle : Store}
    (evaluates : (parsing library).Evaluates (.more ⟨before, input⟩) store calls
      (.success value stopped) middle) (later : Store) :
    (parsing library).Ends (.more ⟨other, stopped⟩) later := by
  by_cases consumes : Consumes ρ library before
  · obtain ⟨fuel, run⟩ :=
      Store.run_iff_runs.mpr ⟨calls, runs_iff_evaluates.mpr evaluates⟩
    obtain ⟨k, pos, holds, rfl⟩ := consumes input stopped m fuel store middle value strict only run
    have bound := holds.le only
    exact h.shorter _ other part (m - k) (by omega) (m - k) (Nat.le_refl _) _
      (strict.advance holds) (only.after holds) later
  · have exposes : Exposes library (Consumes ρ library) parser other := by
      refine ⟨some before, part, ?_⟩
      intro guard he
      obtain rfl := Option.some.inj he
      exact consumes
    exact (h.exposed other exposes).after le strict only (reaches_of_evaluates evaluates) later

theorem PartsEnd.endsWithin (h : PartsEnd ρ library n parser) : EndsWithin ρ library n parser := by
  intro m le input strict only store
  cases parser with
  | primitive p => exact .more (.done _ _)
  | sequence combine first second =>
    have head := h.unguarded .first m le input strict only store
    exact .more (ends_following combine head fun _ _ _ _ evaluates =>
      h.guarded .second le strict only evaluates _)
  | choice first second =>
    have head := h.unguarded .preferred m le input strict only store
    refine .more (head.flatMap fun calls outcome middle evaluates => ?_)
    cases outcome with
    | success value r => exact .done _ _
    | failure message r =>
      have other := h.unguarded .alternative m le input strict only middle
      exact other.flatMap fun _ _ _ _ => .done _ _
    | error message r => exact .done _ _
  | many bounds body => exact (h.unguarded .round).many bounds m le input strict only store
  | chain join bounds operand separator =>
    refine .more ?_
    simp only [parsing, Start.call]
    split
    · exact .done _ _
    · have head := h.unguarded .operand m le input strict only store
      refine head.flatMap fun calls outcome middle evaluates => ?_
      cases outcome with
      | success value r =>
        have round : EndsWithin ρ library n (.sequence Value.pair separator operand) :=
          (h.unguarded .separator).sequence (h.unguarded .operand)
        have rest := (round.many bounds.afterFirst).after le strict only
          (reaches_of_evaluates evaluates) middle
        exact rest.flatMap fun _ _ _ _ => .done _ _
      | failure message r =>
        change (parsing library).Ends (afterOperand join bounds operand separator
          input (.failure message r)) middle
        simp only [afterOperand]
        split <;> exact .done _ _
      | error message r => exact .done _ _
  | adjust adjustment body =>
    have head := h.unguarded .adjusted m le input strict only store
    exact .more (head.flatMap fun _ _ _ _ => .done _ _)
  | flatMap body next =>
    have head := h.unguarded .decider m le input strict only store
    refine .more (head.flatMap fun calls outcome middle evaluates => ?_)
    cases outcome with
    | success value r =>
      exact h.guarded (.continuation value middle.roots) le strict only evaluates _
    | failure message r => exact .done _ _
    | error message r => exact .done _ _
  | select body index branches =>
    have head := h.unguarded .selector m le input strict only store
    refine .more (head.flatMap fun calls outcome middle evaluates => ?_)
    cases outcome with
    | success value r => exact h.guarded (.branch (index value)) le strict only evaluates _
    | failure message r => exact .done _ _
    | error message r => exact .done _ _
  | tap id body =>
    have head := h.unguarded .tapped m le input strict only (store.emit (.enter id))
    exact .more (head.flatMap fun _ _ _ _ => .done _ _)
  | deferred site body => exact .more (h.unguarded .built m le input strict only _)
  | fixpoint site name body => exact .more (h.unguarded .unfolded m le input strict only _)
  | copied site name scope =>
    refine .more ?_
    simp only [parsing, Start.call]
    split
    next body found => exact h.unguarded (.copy found) m le input strict only _
    next => exact .done _ _
  | reference target => exact .more (.done _ _)
  | handle site name body =>
    refine .more ?_
    simp only [parsing, Start.call]
    split
    next kept => exact h.unguarded (.use kept) m le input strict only store
    next => exact .done _ _
  | shared body => exact .more (h.unguarded .shared m le input strict only store)

/-- Guarded parsers end. The induction is on the elements ahead, and for as many elements on the
exposed parts. -/
theorem Guarded.endsWithin (finite : library.Finite)
    (h : Guarded library (Consumes ρ library) parser) (n : Nat) : EndsWithin ρ library n parser := by
  induction n using Nat.strongRecOn generalizing parser with
  | ind n shorter =>
    have grounded := h.grounded finite
    induction grounded with
    | intro parser _ ih =>
      refine PartsEnd.endsWithin ⟨?_, ?_⟩
      · intro other exposes
        exact ih other exposes (h.of_comprises exposes.comprises)
      · intro guard other part k lt
        exact shorter k lt (h.of_comprises (.single ⟨guard, part⟩))

/-- A single element that has to be accepted is read. -/
theorem consumes_satisfy (accepts : ε → Bool) (expected : String) :
    Consumes ρ library (satisfy accepts expected) := by
  intro input stopped n fuel store last value strict only run
  obtain ⟨starts, runs⟩ := Store.run_iff_runs.mp ⟨fuel, run⟩
  obtain ⟨he, -, -⟩ := runs_primitive_iff.mp runs
  simp only [Primitive.run] at he
  split at he
  next x next read =>
    obtain ⟨y, hy, hnext⟩ := Option.map_eq_some_iff.mp read
    obtain ⟨-, rfl⟩ := Prod.mk.inj hnext
    split at he
    · obtain ⟨-, rfl⟩ := Outcome.success.inj he
      have some : (first (advance 0 input)).isSome := by simp [advance, hy]
      exact ⟨1, Nat.one_pos, (Holds.zero input).succ some, rfl⟩
    · cases he
  next => cases he

end Parser

end SafeDescent
