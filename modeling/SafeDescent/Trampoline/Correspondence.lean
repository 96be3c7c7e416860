import SafeDescent.Trampoline.Direct

namespace SafeDescent.Engine

variable {ι κ α σ : Type}

theorem eval_steps_pos (engine : Engine ι κ α σ) {fuel : Nat} {computation : Trampoline ι κ α}
    {state : σ} {result : Finished α σ} (h : engine.eval fuel computation state = some result) :
    0 < result.steps := by
  cases fuel with
  | zero => simp [eval] at h
  | succ fuel =>
    cases computation with
    | done value =>
      simp only [eval, Option.some.injEq] at h
      subst h
      exact Nat.one_pos
    | more thunk =>
      simp only [eval, Option.map_eq_some_iff] at h
      obtain ⟨rest, _, rfl⟩ := h
      exact Nat.succ_pos _
    | flatMap first next =>
      simp only [eval, Option.bind_eq_some_iff, Option.map_eq_some_iff] at h
      obtain ⟨head, _, rest, _, rfl⟩ := h
      show 0 < 1 + head.steps + rest.steps
      omega

theorem loop_done_cons (engine : Engine ι κ α σ) (fuel : Nat) (value : α) (next : κ)
    (pending : List κ) (depth steps deepest : Nat) (state : σ) :
    engine.loop (fuel + 1) (.done value) (next :: pending) (depth + 1) steps deepest state =
      engine.loop fuel (engine.resume next value state).1 pending depth (steps + 1) deepest
        (engine.resume next value state).2 := rfl

/-- The loop works a computation off to its value before it touches the continuations that waited
already, and its counters grow by what the evaluation costs. -/
theorem loop_of_eval (engine : Engine ι κ α σ) {fuel : Nat} {computation : Trampoline ι κ α}
    {state : σ} {result : Finished α σ} (h : engine.eval fuel computation state = some result)
    (pending : List κ) (depth steps deepest left : Nat) (bound : depth ≤ deepest) :
    engine.loop (left + result.steps) computation pending depth steps deepest state =
      engine.loop (left + 1) (.done result.value) pending depth (steps + result.steps - 1)
        (max deepest (depth + result.deepest)) result.state := by
  induction fuel generalizing computation state result pending depth steps deepest left with
  | zero => simp [eval] at h
  | succ fuel ih =>
    cases computation with
    | done value =>
      simp only [eval, Option.some.injEq] at h
      subst h
      simp [Nat.max_eq_left bound]
    | more thunk =>
      simp only [eval, Option.map_eq_some_iff] at h
      obtain ⟨rest, hrest, rfl⟩ := h
      show engine.loop (left + rest.steps) (engine.call thunk state).1 pending depth (steps + 1)
        deepest (engine.call thunk state).2 = _
      rw [ih hrest pending depth (steps + 1) deepest left bound]
      congr 1
      show steps + 1 + rest.steps - 1 = steps + (rest.steps + 1) - 1
      omega
    | flatMap first next =>
      simp only [eval, Option.bind_eq_some_iff, Option.map_eq_some_iff] at h
      obtain ⟨head, hhead, rest, hrest, rfl⟩ := h
      have restPos := engine.eval_steps_pos hrest
      have headPos := engine.eval_steps_pos hhead
      have turns : left + (1 + head.steps + rest.steps) = (left + rest.steps) + head.steps + 1 := by
        omega
      show engine.loop (left + (1 + head.steps + rest.steps)) _ _ _ _ _ _ = _
      rw [turns, loop, ih hhead (next :: pending) (depth + 1) (steps + 1) (max deepest (depth + 1))
        (left + rest.steps) (Nat.le_max_right _ _)]
      rw [loop_done_cons, ih hrest pending depth _ _ left (by omega)]
      congr 1
      · show steps + 1 + head.steps - 1 + 1 + rest.steps - 1
          = steps + (1 + head.steps + rest.steps) - 1
        omega
      · show max (max (max deepest (depth + 1)) (depth + 1 + head.deepest)) (depth + rest.deepest)
          = max deepest (depth + max (1 + head.deepest) rest.deepest)
        omega

/-- A run whose turns suffice gives exactly what the evaluation gives, costs included. -/
theorem run_of_eval (engine : Engine ι κ α σ) {fuel : Nat} {computation : Trampoline ι κ α}
    {state : σ} {result : Finished α σ} (h : engine.eval fuel computation state = some result)
    (left : Nat) : engine.run (left + result.steps) computation state = some result := by
  have pos := engine.eval_steps_pos h
  rw [run, engine.loop_of_eval h [] 0 0 0 left (Nat.le_refl 0), loop]
  simp only [Nat.zero_add, Nat.zero_max]
  rw [Nat.sub_add_cancel pos]

/-- A loop that ends has evaluated the computation at hand, and fewer turns were left for what
waited. -/
theorem eval_of_loop (engine : Engine ι κ α σ) {fuel : Nat} {computation : Trampoline ι κ α}
    {pending : List κ} {depth steps deepest : Nat} {state : σ} {final : Finished α σ}
    (h : engine.loop fuel computation pending depth steps deepest state = some final) :
    ∃ bound head left steps deepest, engine.eval bound computation state = some head ∧
      left ≤ fuel ∧
      engine.loop left (.done head.value) pending depth steps deepest head.state = some final := by
  induction fuel using Nat.strongRecOn generalizing computation pending depth steps deepest state
  with
  | ind fuel ih =>
  cases fuel with
  | zero => simp [loop] at h
  | succ fuel =>
    cases computation with
    | done value =>
      exact ⟨1, ⟨value, 1, 0, state⟩, fuel + 1, steps, deepest, rfl, Nat.le_refl _, h⟩
    | more thunk =>
      rw [loop] at h
      obtain ⟨bound, head, left, steps, deepest, heval, hle, hloop⟩ :=
        ih fuel (Nat.lt_succ_self fuel) h
      exact ⟨bound + 1, { head with steps := head.steps + 1 }, left, steps, deepest,
        by simp [eval, heval], by omega, hloop⟩
    | flatMap first next =>
      rw [loop] at h
      obtain ⟨bound, head, left, _, _, heval, hle, hloop⟩ := ih fuel (Nat.lt_succ_self fuel) h
      cases left with
      | zero => simp [loop] at hloop
      | succ left =>
        rw [loop] at hloop
        obtain ⟨bound', rest, left', steps, deepest, heval', hle', hloop'⟩ :=
          ih left (by omega) hloop
        refine ⟨max bound bound' + 1, ⟨rest.value, 1 + head.steps + rest.steps,
          max (1 + head.deepest) rest.deepest, rest.state⟩, left', steps, deepest, ?_, by omega,
          by simpa using hloop'⟩
        simp [eval, engine.eval_mono (Nat.le_max_left bound bound') heval,
          engine.eval_mono (Nat.le_max_right bound bound') heval']

/-- More turns do not change a result. -/
theorem loop_mono (engine : Engine ι κ α σ) {fuel more : Nat} {computation : Trampoline ι κ α}
    {pending : List κ} {depth steps deepest : Nat} {state : σ} {final : Finished α σ}
    (bound : fuel ≤ more)
    (h : engine.loop fuel computation pending depth steps deepest state = some final) :
    engine.loop more computation pending depth steps deepest state = some final := by
  induction fuel generalizing more computation pending depth steps deepest state with
  | zero => simp [loop] at h
  | succ fuel ih =>
    obtain ⟨more, rfl⟩ : ∃ n, more = n + 1 := ⟨more - 1, by omega⟩
    have bound' : fuel ≤ more := by omega
    cases computation with
    | done value =>
      cases pending with
      | nil => exact h
      | cons next pending =>
        simp only [loop] at h ⊢
        exact ih bound' h
    | more thunk =>
      simp only [loop] at h ⊢
      exact ih bound' h
    | flatMap first next =>
      simp only [loop] at h ⊢
      exact ih bound' h

/-- The machine ends exactly when the direct evaluation does, with the same result. -/
theorem run_eq_some_iff (engine : Engine ι κ α σ) {computation : Trampoline ι κ α} {state : σ}
    {result : Finished α σ} :
    (∃ fuel, engine.run fuel computation state = some result) ↔
      ∃ fuel, engine.eval fuel computation state = some result := by
  constructor
  · rintro ⟨fuel, h⟩
    obtain ⟨bound, head, _, _, _, heval, _⟩ := engine.eval_of_loop h
    have exact := engine.run_of_eval heval fuel
    have longer : engine.run (fuel + head.steps) computation state = some result :=
      engine.loop_mono (Nat.le_add_right _ _) h
    exact ⟨bound, by rw [heval, ← exact, longer]⟩
  · rintro ⟨fuel, h⟩
    exact ⟨_, engine.run_of_eval h 0⟩

end SafeDescent.Engine
