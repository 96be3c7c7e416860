import SafeDescent.Parser.Text
import SafeDescent.Proofs.Parser.FlatMapLaws
import SafeDescent.Reader.Text

namespace SafeDescent

variable {ε : Type} [Element ε] [DecidableEq ε]

section

variable {ρ α ι κ σ : Type}

/-- Where an outcome leads to a computation, a continuation that goes on after successes may as well
wait for that computation alone. -/
theorem Engine.evaluates_andThen_iff {engine : Engine ι κ (Outcome ρ α) σ} {after : κ}
    {proceed : α → ρ → σ → Trampoline ι κ (Outcome ρ α) × σ}
    (resumes : ∀ outcome state, engine.resume after outcome state =
      outcome.andThen (fun stopped => (.done stopped, state)) fun value r => proceed value r state)
    (outcome : Outcome ρ α) (next : α → ρ → Trampoline ι κ (Outcome ρ α)) {state last : σ}
    {calls : List ι} {ended : Outcome ρ α} :
    engine.Evaluates (.flatMap (outcome.andThen .done next) after) state calls ended last ↔
      engine.Evaluates (outcome.andThen .done fun value r => .flatMap (next value r) after) state
        calls ended last := by
  have stops (stopped : Outcome ρ α)
      (settled : engine.resume after stopped state = (.done stopped, state)) :
      engine.Evaluates (.flatMap (.done stopped) after) state calls ended last ↔
        engine.Evaluates (.done stopped) state calls ended last := by
    rw [Engine.evaluates_flatMap_iff]
    constructor
    · intro h
      obtain ⟨before, rest, head, middle, rfl, hdone, hrest⟩ := h
      obtain ⟨rfl, rfl, rfl⟩ := Engine.evaluates_done_iff.mp hdone
      rwa [settled] at hrest
    · intro h
      refine ⟨[], calls, stopped, state, rfl, .done .., ?_⟩
      rwa [settled]
  cases outcome with
  | success value r => exact .rfl
  | failure message r => exact stops _ (resumes ..)
  | error message r => exact stops _ (resumes ..)

end

/-- Parsers form a monad from which sequencing and mapping derive. A parser that a function makes is
not held while it runs, so it can stand for one that is held if nothing in it has to be. -/
theorem parsers_form_monad (library : Library ε) {names : String → Prop}
    (hl : library.Portable names) (kept : Bool) (path path' : List Nat) :
    (∀ (value : Value) (next : Value → Parser ε) (kept' : Bool),
        kept' = false ∨ (next value).Portable names →
          ((Parser.flatMap (.succeed value) next).place kept path).Interchangeable library names 2 0
            ((next value).place kept' path')) ∧
      (∀ body : Parser ε, ((Parser.flatMap body .succeed).place kept path).Interchangeable library
        names 2 0 (body.place kept path')) ∧
      (∀ (body : Parser ε) (next after : Value → Parser ε),
        ((Parser.flatMap (.flatMap body next) after).place kept path).Interchangeable library names 2 2
          ((Parser.flatMap body fun value => .flatMap (next value) after).place kept path')) ∧
      (∀ (body : Parser ε) (f : Value → Value),
        ((body.map f).place kept path).Interchangeable library names 1 2
          ((Parser.flatMap body fun value => .succeed (f value)).place kept path')) ∧
      (∀ body : Parser ε, ((body.map id).place kept path).Interchangeable library names 1 0
        (body.place kept path')) ∧
      (∀ (first second : Parser ε) (combine : Value → Value → Value) (place : List Nat),
        ((Parser.sequence combine first second).place kept path).Interchangeable library names 1 3
          ((Parser.flatMap first fun value =>
            (Parser.shared (second.place kept place)).map (combine value)).place kept path')) ∧
      (∀ (first second : Parser ε) (combine : Value → Value → Value),
        kept = false ∨ second.Portable names →
          ((Parser.sequence combine first second).place kept path).Interchangeable library names 1 2
            ((Parser.flatMap first fun value => second.map (combine value)).place kept path')) ∧
      (∀ first second : Parser ε, first.seq second = .sequence Value.pair first second ∧
        first.keepRight second = .sequence (fun _ value => value) first second ∧
        first.keepLeft second = .sequence (fun value _ => value) first second) ∧
      (∀ (ρ α β γ : Type) (outcome : Outcome ρ α) (next : α → ρ → Outcome ρ β)
        (after : β → ρ → Outcome ρ γ), (outcome.flatMap next).flatMap after =
          outcome.flatMap fun value r => (next value r).flatMap after) ∧
      ∀ (ρ α ι κ σ : Type) (engine : Engine ι κ (Outcome ρ α) σ) (after : κ)
        (proceed : α → ρ → σ → Trampoline ι κ (Outcome ρ α) × σ),
        (∀ outcome state, engine.resume after outcome state = outcome.andThen
          (fun stopped => (.done stopped, state)) fun value r => proceed value r state) →
        ∀ (outcome : Outcome ρ α) (next : α → ρ → Trampoline ι κ (Outcome ρ α)) (state last : σ)
          (calls : List ι) (ended : Outcome ρ α),
          engine.Evaluates (.flatMap (outcome.andThen .done next) after) state calls ended last ↔
            engine.Evaluates (outcome.andThen .done fun value r => .flatMap (next value r) after)
              state calls ended last := by
  have moved (parser : Parser ε) (path path' : List Nat) :
      (parser.place kept path).Interchangeable library names 0 0 (parser.place kept path') :=
    Parser.interchangeable_place hl parser (.inl rfl) path path'
  refine ⟨?_, ?_, ?_, ?_, ?_, ?_, ?_, ?_, ?_, ?_⟩
  · intro value next kept' free
    refine Parser.succeed_flatMap_interchangeable fun root => ?_
    exact Parser.interchangeable_place hl _ (free.imp_left Eq.symm) [root] path'
  · exact fun body => Parser.flatMap_succeed_interchangeable (moved ..)
  · exact fun body next after => Parser.flatMap_flatMap_interchangeable hl (moved ..)
  · exact fun body f => Parser.map_interchangeable (moved ..)
  · exact fun body => Parser.map_id_interchangeable (moved ..)
  · intro first second combine place
    exact Parser.sequence_interchangeable (moved ..) fun root =>
      Parser.interchangeable_shared (moved ..)
  · intro first second combine free
    exact Parser.sequence_interchangeable (moved ..) fun root =>
      Parser.interchangeable_place hl second free (1 :: path) [0, root]
  · exact fun first second => ⟨rfl, rfl, rfl⟩
  · exact fun ρ α β γ outcome next after => outcome.flatMap_flatMap next after
  · intro ρ α ι κ σ engine after proceed resumes outcome next state last calls ended
    exact Engine.evaluates_andThen_iff resumes outcome next

/-- The first letter comes again, and then as many x as there are. The function copies a definition
that holds nothing. -/
theorem parsers_form_monad_letters :
    let library : Library Char := fun name =>
      if name = "xs" then some (.repeated 0 none (.character 'x')) else none
    let names (name : String) : Prop := name = "xs"
    let again (value : Value) : Parser Char := (Parser.exactly value).keepLeft (.named "xs")
    let start := TextReader.ofString "yyxx"
    let joining : Frame TextReader Char := .following Value.pair .any
    library.Portable names ∧ (∀ value, (again value).Portable names) ∧
      ({} : Store).Answers library .part ((again (.char 'y')).place true [1]) start
        (.success (.char 'y') (Reader.advance 1 start)) ∧
      ({} : Store).Answers library .part ((Parser.flatMap .any fun first =>
          (again (.char 'y')).map (Value.pair first)).place true [1]) start
        (.success (.tuple [.char 'y', .char 'y']) (Reader.advance 4 start)) ∧
      ∃ starts last, (parsing library).Evaluates
        (.flatMap ((Outcome.success Value.unit start).andThen .done fun _ r => .more ⟨.any, r⟩) joining)
        {} starts (.success (.tuple [.char 'y', .char 'y']) (Reader.advance 2 start)) last := by
  intro library names again start joining
  have portable : library.Portable names := by
    intro name body named defined
    have same : some (Parser.repeated 0 none (.character 'x')) = some body :=
      (if_pos named).symm.trans defined
    cases same
    trivial
  have free (value : Value) : (again value).Portable names := by
    refine ⟨?_, rfl, fun target => trivial⟩
    show (Parser.exactly value).Portable names
    unfold Parser.exactly
    split <;> trivial
  obtain ⟨left, -, -, -, -, -, derived, -, -, deferred⟩ :=
    parsers_form_monad library portable true [0] [1]
  have bound : ({} : Store).Answers library .part
      ((Parser.flatMap (.succeed (.char 'y')) again).place true [0]) start
      (.success (.char 'y') (Reader.advance 1 start)) := ⟨60, _, _, rfl, rfl⟩
  have paired : ({} : Store).Answers library .part
      ((Parser.any.seq (again (.char 'y'))).place true [0]) start
      (.success (.tuple [.char 'y', .char 'y']) (Reader.advance 4 start)) := ⟨60, _, _, rfl, rfl⟩
  have alone : ∃ starts, (parsing library).Evaluates (.flatMap (.more ⟨.any, start⟩) joining) {}
      starts (.success (.tuple [.char 'y', .char 'y']) (Reader.advance 2 start)) {} :=
    Engine.run_iff_evaluates.mp ⟨20, _, rfl, rfl, rfl⟩
  obtain ⟨starts, alone⟩ := alone
  have resumes (outcome : Outcome TextReader Value) (state : Store) :
      (parsing library).resume joining outcome state = outcome.andThen
        (fun stopped => (.done stopped, state))
        fun value r => (Run.start .any r (.joining Value.pair value), state) := by
    cases outcome <;> rfl
  refine ⟨portable, free, ?_, ?_, starts, {}, ?_⟩
  · exact ((left _ again true (.inr (free _))).equivalent TextReader start .part {} {} _).mp bound
  · exact ((derived .any _ Value.pair (.inr (free _))).equivalent TextReader start .part {} {} _).mp
      paired
  · exact (deferred _ _ _ _ _ (parsing library) joining _ resumes (.success .unit start) _ _ _ _ _).mpr
      alone

end SafeDescent
