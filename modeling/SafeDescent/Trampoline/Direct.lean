import SafeDescent.Trampoline

namespace SafeDescent.Engine

variable {ι κ α σ : Type}

/-- The direct meaning of a computation, by recursion on its structure and without a list of
continuations. A value costs one turn and no depth; a thunk adds a turn to what it yields; a
continuation adds a turn, and one level of depth while the first part runs. `fuel` bounds the
nesting of the recursion. -/
def eval (engine : Engine ι κ α σ) : Nat → Trampoline ι κ α → σ → Option (Finished α σ)
  | 0, _, _ => none
  | _ + 1, .done value, state => some ⟨value, 1, 0, state⟩
  | fuel + 1, .more thunk, state =>
    let (next, state) := engine.call thunk state
    (engine.eval fuel next state).map fun rest => { rest with steps := rest.steps + 1 }
  | fuel + 1, .flatMap first next, state =>
    (engine.eval fuel first state).bind fun head =>
      let (tail, state) := engine.resume next head.value head.state
      (engine.eval fuel tail state).map fun rest =>
        ⟨rest.value, 1 + head.steps + rest.steps, max (1 + head.deepest) rest.deepest, rest.state⟩

/-- A finished evaluation keeps its answer when the bound grows. -/
theorem eval_mono (engine : Engine ι κ α σ) {fuel more : Nat} {computation : Trampoline ι κ α}
    {state : σ} {result : Finished α σ} (bound : fuel ≤ more)
    (h : engine.eval fuel computation state = some result) :
    engine.eval more computation state = some result := by
  induction fuel generalizing more computation state result with
  | zero => simp [eval] at h
  | succ fuel ih =>
    obtain ⟨more, rfl⟩ : ∃ n, more = n + 1 := ⟨more - 1, by omega⟩
    have bound : fuel ≤ more := by omega
    cases computation with
    | done value => simpa [eval] using h
    | more thunk =>
      simp only [eval, Option.map_eq_some_iff] at h ⊢
      obtain ⟨rest, hrest, rfl⟩ := h
      exact ⟨rest, ih bound hrest, rfl⟩
    | flatMap first next =>
      simp only [eval, Option.bind_eq_some_iff, Option.map_eq_some_iff] at h ⊢
      obtain ⟨head, hhead, rest, hrest, rfl⟩ := h
      exact ⟨head, ih bound hhead, rest, ih bound hrest, rfl⟩

end SafeDescent.Engine
