import SafeDescent.Proofs.Trampoline.Evaluation

namespace SafeDescent

variable {ι κ α σ τ : Type}

/-- A computation that promises something of its value. A thunk keeps its promises as it is; a
continuation turns what is promised of the value before it into a promise of its own. -/
inductive Trampoline.Promises (I : τ → ι → Prop) (K : τ → κ → τ → Prop) (V : τ → α → Prop) :
    τ → Trampoline ι κ α → Prop
  | done {promise : τ} {value : α} : V promise value → Promises I K V promise (.done value)
  | more {promise : τ} {thunk : ι} : I promise thunk → Promises I K V promise (.more thunk)
  | flatMap {e promise : τ} {first : Trampoline ι κ α} {next : κ} :
      Promises I K V e first → K e next promise → Promises I K V promise (.flatMap first next)

namespace Engine

/-- Promises that every step of an engine hands on. -/
structure Honours (engine : Engine ι κ α σ) (I : τ → ι → Prop) (K : τ → κ → τ → Prop)
    (V : τ → α → Prop) : Prop where
  call {promise : τ} {thunk : ι} (state : σ) : I promise thunk →
    (engine.call thunk state).1.Promises I K V promise
  resume {earlier promise : τ} {next : κ} {value : α} (state : σ) : K earlier next promise →
    V earlier value → (engine.resume next value state).1.Promises I K V promise

variable {engine : Engine ι κ α σ} {I : τ → ι → Prop} {K : τ → κ → τ → Prop} {V : τ → α → Prop}

/-- What a computation promises holds of its value. -/
theorem Honours.evaluates (honours : engine.Honours I K V) {promise : τ}
    {computation : Trampoline ι κ α} {state last : σ} {calls : List ι} {value : α}
    (promises : computation.Promises I K V promise)
    (h : engine.Evaluates computation state calls value last) : V promise value := by
  induction h generalizing promise with
  | done value state =>
    cases promises with
    | done kept => exact kept
  | @more thunk state last calls value _ ih =>
    cases promises with
    | more given => exact ih (honours.call state given)
  | @flatMap first next state middle last calls more head value _ _ ih ih' =>
    cases promises with
    | flatMap given handed => exact ih' (honours.resume middle handed (ih given))

end Engine

end SafeDescent
