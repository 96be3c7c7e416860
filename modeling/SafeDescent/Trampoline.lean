namespace SafeDescent

/-- A deferred computation: a finished value, a thunk that yields the next computation, or a
computation whose value goes to a continuation. Thunks and continuations are names, so that a
computation is a finite object even when following it never ends. -/
inductive Trampoline (ι κ α : Type) where
  | done (value : α)
  | more (thunk : ι)
  | flatMap (first : Trampoline ι κ α) (next : κ)

/-- True when no further steps are needed. -/
def Trampoline.isDone {ι κ α : Type} : Trampoline ι κ α → Bool
  | .done _ => true
  | _ => false

/-- What the names of thunks and continuations mean. Following one may read and change a state. -/
structure Engine (ι κ α σ : Type) where
  call : ι → σ → Trampoline ι κ α × σ
  resume : κ → α → σ → Trampoline ι κ α × σ

/-- The end of a run: its value, the turns it took, the most continuations that waited at the
same time, and the last state. -/
structure Finished (α σ : Type) where
  value : α
  steps : Nat
  deepest : Nat
  state : σ

namespace Engine

variable {ι κ α σ : Type}

/-- One turn per call: a value goes to the latest waiting continuation, a thunk is called, and a
continuation joins the others. `depth` counts the waiting continuations. -/
def loop (engine : Engine ι κ α σ) :
    Nat → Trampoline ι κ α → List κ → Nat → Nat → Nat → σ → Option (Finished α σ)
  | 0, _, _, _, _, _, _ => none
  | fuel + 1, .done value, pending, depth, steps, deepest, state =>
    match pending with
    | [] => some ⟨value, steps + 1, deepest, state⟩
    | next :: pending =>
      let (current, state) := engine.resume next value state
      engine.loop fuel current pending (depth - 1) (steps + 1) deepest state
  | fuel + 1, .more thunk, pending, depth, steps, deepest, state =>
    let (current, state) := engine.call thunk state
    engine.loop fuel current pending depth (steps + 1) deepest state
  | fuel + 1, .flatMap first next, pending, depth, steps, deepest, state =>
    engine.loop fuel first (next :: pending) (depth + 1) (steps + 1) (max deepest (depth + 1)) state

/-- Drives a computation to its end in at most `fuel` turns. The waiting continuations are a list,
so the depth of the computation costs no native stack. -/
def run (engine : Engine ι κ α σ) (fuel : Nat) (computation : Trampoline ι κ α) (state : σ) :
    Option (Finished α σ) :=
  engine.loop fuel computation [] 0 0 0 state

end Engine

end SafeDescent
