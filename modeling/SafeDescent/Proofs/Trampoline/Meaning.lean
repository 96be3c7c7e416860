import SafeDescent.Trampoline.Arithmetic
import SafeDescent.Trampoline.Correspondence

namespace SafeDescent

variable {ι κ α σ τ : Type}

/-- A finished run with another last state. -/
def Finished.withState (finished : Finished α σ) (state : τ) : Finished α τ :=
  ⟨finished.value, finished.steps, finished.deepest, state⟩

namespace Engine

/-- A closure that a run used: a thunk, or a continuation with the value that it was given. -/
inductive Use (ι κ α : Type) where
  | thunk (name : ι)
  | continuation (name : κ) (value : α)

/-- The same engine, but the state also keeps the closures that were used, the latest first. -/
def recorded (engine : Engine ι κ α σ) : Engine ι κ α (σ × List (Use ι κ α)) where
  call thunk state :=
    ((engine.call thunk state.1).1, (engine.call thunk state.1).2, .thunk thunk :: state.2)
  resume next value state :=
    ((engine.resume next value state.1).1, (engine.resume next value state.1).2,
      .continuation next value :: state.2)

/-- The meaning of a computation from a state on: the closures that give its value, in order, and
the value with its costs. A value means itself, in one turn and with nothing waiting. A thunk means
what it yields, a turn later. A continuation means what it makes of the value before it. It takes a
turn, and it waits below everything that waits for that value. -/
inductive Means (engine : Engine ι κ α σ) :
    Trampoline ι κ α → σ → List (Use ι κ α) → Finished α σ → Prop
  | done (value : α) (state : σ) : Means engine (.done value) state [] ⟨value, 1, 0, state⟩
  | more {thunk : ι} {state : σ} {uses : List (Use ι κ α)} {rest : Finished α σ} :
      Means engine (engine.call thunk state).1 (engine.call thunk state).2 uses rest →
        Means engine (.more thunk) state (.thunk thunk :: uses)
          ⟨rest.value, 1 + rest.steps, rest.deepest, rest.state⟩
  | flatMap {first : Trampoline ι κ α} {next : κ} {state : σ} {before after : List (Use ι κ α)}
      {head rest : Finished α σ} :
      Means engine first state before head →
      Means engine (engine.resume next head.value head.state).1
        (engine.resume next head.value head.state).2 after rest →
        Means engine (.flatMap first next) state
          (before ++ .continuation next head.value :: after)
          ⟨rest.value, 1 + head.steps + rest.steps, max (1 + head.deepest) rest.deepest, rest.state⟩

variable {engine : Engine ι κ α σ}

theorem means_of_eval {fuel : Nat} {computation : Trampoline ι κ α} {state : σ}
    {log : List (Use ι κ α)} {final : Finished α (σ × List (Use ι κ α))}
    (h : engine.recorded.eval fuel computation (state, log) = some final) :
    ∃ uses result, engine.Means computation state uses result ∧
      final = result.withState (result.state, uses.reverse ++ log) := by
  induction fuel generalizing computation state log final with
  | zero => simp [eval] at h
  | succ fuel ih =>
    cases computation with
    | done value =>
      obtain rfl := Option.some.inj h
      exact ⟨[], _, .done value state, rfl⟩
    | more thunk =>
      simp only [eval, Option.map_eq_some_iff] at h
      obtain ⟨rest, hrest, rfl⟩ := h
      obtain ⟨uses, result, means, rfl⟩ := ih hrest
      refine ⟨.thunk thunk :: uses, _, .more means, ?_⟩
      simp [Finished.withState, Nat.add_comm]
    | flatMap first next =>
      simp only [eval, Option.bind_eq_some_iff, Option.map_eq_some_iff] at h
      obtain ⟨head, hhead, rest, hrest, rfl⟩ := h
      obtain ⟨before, first, means, rfl⟩ := ih hhead
      obtain ⟨after, result, means', rfl⟩ := ih hrest
      refine ⟨before ++ .continuation next first.value :: after, _, .flatMap means means', ?_⟩
      simp [Finished.withState]

theorem eval_of_means {computation : Trampoline ι κ α} {state : σ} {uses : List (Use ι κ α)}
    {result : Finished α σ} (h : engine.Means computation state uses result)
    (log : List (Use ι κ α)) :
    ∃ fuel, engine.recorded.eval fuel computation (state, log) =
      some (result.withState (result.state, uses.reverse ++ log)) := by
  induction h generalizing log with
  | done value state => exact ⟨1, rfl⟩
  | @more thunk state uses rest _ ih =>
    obtain ⟨fuel, heval⟩ := ih (.thunk thunk :: log)
    refine ⟨fuel + 1, ?_⟩
    simp only [eval, Option.map_eq_some_iff]
    exact ⟨_, heval, by simp [Finished.withState, Nat.add_comm]⟩
  | @flatMap first next state before after head rest _ _ ih ih' =>
    obtain ⟨fuel, heval⟩ := ih log
    obtain ⟨fuel', heval'⟩ := ih' (.continuation next head.value :: (before.reverse ++ log))
    have heval := engine.recorded.eval_mono (Nat.le_max_left fuel fuel') heval
    have heval' := engine.recorded.eval_mono (Nat.le_max_right fuel fuel') heval'
    refine ⟨max fuel fuel' + 1, ?_⟩
    simp only [eval, Option.bind_eq_some_iff, Option.map_eq_some_iff]
    exact ⟨_, heval, _, heval', by simp [Finished.withState]⟩

theorem loop_recorded (fuel : Nat) (computation : Trampoline ι κ α) (pending : List κ)
    (depth steps deepest : Nat) (state : σ) (log : List (Use ι κ α)) :
    (engine.recorded.loop fuel computation pending depth steps deepest (state, log)).map
        (fun seen => seen.withState seen.state.1) =
      engine.loop fuel computation pending depth steps deepest state := by
  induction fuel generalizing computation pending depth steps deepest state log with
  | zero => rfl
  | succ fuel ih =>
    cases computation with
    | done value =>
      cases pending with
      | nil => rfl
      | cons next pending => exact ih ..
    | more thunk => exact ih ..
    | flatMap first next => exact ih ..

/-- Recording changes nothing. -/
theorem run_recorded (fuel : Nat) (computation : Trampoline ι κ α) (state : σ) :
    (engine.recorded.run fuel computation (state, [])).map
        (fun seen => seen.withState seen.state.1) =
      engine.run fuel computation state :=
  loop_recorded ..

theorem recorded_run_iff_means {computation : Trampoline ι κ α} {state : σ}
    {uses : List (Use ι κ α)} {result : Finished α σ} :
    (∃ fuel, engine.recorded.run fuel computation (state, []) =
        some (result.withState (result.state, uses.reverse))) ↔
      engine.Means computation state uses result := by
  rw [run_eq_some_iff]
  constructor
  · intro h
    obtain ⟨fuel, heval⟩ := h
    obtain ⟨uses', result', means, same⟩ := means_of_eval heval
    obtain ⟨value, steps, deepest, last⟩ := result
    obtain ⟨rfl, rfl, rfl, rfl, hlog⟩ : value = result'.value ∧ steps = result'.steps ∧
        deepest = result'.deepest ∧ last = result'.state ∧ uses.reverse = uses'.reverse := by
      simpa [Finished.withState] using same
    obtain rfl := List.reverse_inj.mp hlog
    exact means
  · intro means
    simpa using eval_of_means means []

/-- The machine ends exactly where the computation has a meaning. It yields the value that is meant,
it uses the closures of the meaning once each and in that order, and its counters show the costs. -/
theorem run_iff_means (engine : Engine ι κ α σ) (computation : Trampoline ι κ α) (state : σ)
    (result : Finished α σ) :
    ((∃ fuel, engine.run fuel computation state = some result) ↔
      ∃ uses, engine.Means computation state uses result) ∧
    ∀ uses, (∃ fuel, engine.recorded.run fuel computation (state, []) =
        some (result.withState (result.state, uses.reverse))) ↔
      engine.Means computation state uses result := by
  refine ⟨⟨?_, ?_⟩, fun uses => recorded_run_iff_means⟩
  · intro h
    obtain ⟨fuel, hrun⟩ := h
    rw [← run_recorded] at hrun
    obtain ⟨⟨value, steps, deepest, last, log⟩, hseen, rfl⟩ := Option.map_eq_some_iff.mp hrun
    refine ⟨log.reverse, recorded_run_iff_means.mp ⟨fuel, ?_⟩⟩
    rw [List.reverse_reverse]
    exact hseen
  · intro h
    obtain ⟨uses, means⟩ := h
    obtain ⟨fuel, hseen⟩ := recorded_run_iff_means.mpr means
    refine ⟨fuel, ?_⟩
    rw [← run_recorded, hseen]
    rfl

end Engine

/-- Three additions one inside the other, and three that each wait for a deferred sum. -/
example :
    (Arithmetic.engine.run 20 (Arithmetic.Program.left (.done 0) 3).computation []).map
        (fun finished => (finished.steps, finished.deepest)) = some (7, 3) ∧
      (Arithmetic.engine.run 20 (Arithmetic.Program.sumTo 3).computation []).map
        (fun finished => (finished.steps, finished.deepest)) = some (10, 3) := by
  decide

end SafeDescent
