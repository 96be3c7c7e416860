import Mathlib.Data.List.Forall2
import SafeDescent.Trampoline

namespace SafeDescent

variable {ι κ α σ ι' κ' α' σ' : Type}

/-- A computation whose values, thunks and continuations have given properties. -/
inductive Trampoline.All (I : ι → Prop) (K : κ → Prop) (V : α → Prop) :
    Trampoline ι κ α → Prop
  | done {value : α} : V value → All I K V (.done value)
  | more {thunk : ι} : I thunk → All I K V (.more thunk)
  | flatMap {first : Trampoline ι κ α} {next : κ} :
      All I K V first → K next → All I K V (.flatMap first next)

/-- Two computations of one shape, with related values, thunks and continuations. -/
inductive Trampoline.Related (I : ι → ι' → Prop) (K : κ → κ' → Prop) (V : α → α' → Prop) :
    Trampoline ι κ α → Trampoline ι' κ' α' → Prop
  | done {value : α} {value' : α'} : V value value' → Related I K V (.done value) (.done value')
  | more {thunk : ι} {thunk' : ι'} : I thunk thunk' → Related I K V (.more thunk) (.more thunk')
  | flatMap {first : Trampoline ι κ α} {first' : Trampoline ι' κ' α'} {next : κ} {next' : κ'} :
      Related I K V first first' → K next next' →
        Related I K V (.flatMap first next) (.flatMap first' next')

theorem optionRel_map {β β' γ γ' : Type} {P : γ → γ' → Prop} {f : β → γ} {f' : β' → γ'}
    {x : Option β} {x' : Option β'} :
    Option.Rel P (x.map f) (x'.map f') ↔ Option.Rel (fun a a' => P (f a) (f' a')) x x' := by
  cases x with
  | none =>
    cases x' with
    | none => exact ⟨fun _ => .none, fun _ => .none⟩
    | some a' => constructor <;> intro h <;> cases h
  | some a =>
    cases x' with
    | none => constructor <;> intro h <;> cases h
    | some a' => exact ⟨fun | .some h => .some h, fun | .some h => .some h⟩

theorem optionRel_mono {β β' : Type} {P Q : β → β' → Prop} (imp : ∀ a a', P a a' → Q a a')
    {x : Option β} {x' : Option β'} (h : Option.Rel P x x') : Option.Rel Q x x' := by
  cases h with
  | none => exact .none
  | some ha => exact .some (imp _ _ ha)

namespace Engine

/-- Properties that every step of an engine keeps. -/
structure Keeps (engine : Engine ι κ α σ) (I : ι → Prop) (K : κ → Prop) (V : α → Prop)
    (S : σ → Prop) : Prop where
  call {thunk : ι} {state : σ} : I thunk → S state →
    (engine.call thunk state).1.All I K V ∧ S (engine.call thunk state).2
  resume {next : κ} {value : α} {state : σ} : K next → V value → S state →
    (engine.resume next value state).1.All I K V ∧ S (engine.resume next value state).2

/-- Relations between the steps of two engines that each pair of steps keeps. -/
structure Simulates (engine : Engine ι κ α σ) (engine' : Engine ι' κ' α' σ')
    (I : ι → ι' → Prop) (K : κ → κ' → Prop) (V : α → α' → Prop) (S : σ → σ' → Prop) : Prop where
  call {thunk : ι} {thunk' : ι'} {state : σ} {state' : σ'} : I thunk thunk' → S state state' →
    Trampoline.Related I K V (engine.call thunk state).1 (engine'.call thunk' state').1 ∧
      S (engine.call thunk state).2 (engine'.call thunk' state').2
  resume {next : κ} {next' : κ'} {value : α} {value' : α'} {state : σ} {state' : σ'} :
    K next next' → V value value' → S state state' →
    Trampoline.Related I K V (engine.resume next value state).1
        (engine'.resume next' value' state').1 ∧
      S (engine.resume next value state).2 (engine'.resume next' value' state').2

section Keeps

variable {engine : Engine ι κ α σ} {I : ι → Prop} {K : κ → Prop} {V : α → Prop} {S : σ → Prop}

/-- What every step keeps holds at the end of the loop, whatever waits. -/
theorem Keeps.loop (keeps : engine.Keeps I K V S) {fuel : Nat} {computation : Trampoline ι κ α}
    {pending : List κ} {depth steps deepest : Nat} {state : σ} {final : Finished α σ}
    (hc : computation.All I K V) (hp : ∀ next ∈ pending, K next) (hs : S state)
    (h : engine.loop fuel computation pending depth steps deepest state = some final) :
    V final.value ∧ S final.state := by
  induction fuel generalizing computation pending depth steps deepest state with
  | zero => simp [Engine.loop] at h
  | succ fuel ih =>
    cases hc with
    | @done value hv =>
      cases pending with
      | nil =>
        simp only [Engine.loop, Option.some.injEq] at h
        subst h
        exact ⟨hv, hs⟩
      | cons next pending =>
        have hn := hp next (by simp)
        obtain ⟨hc, hs⟩ := keeps.resume hn hv hs
        exact ih hc (fun k hk => hp k (by simp [hk])) hs h
    | @more thunk hi =>
      obtain ⟨hc, hs⟩ := keeps.call hi hs
      exact ih hc hp hs h
    | @flatMap first next hc hn =>
      refine ih hc ?_ hs h
      intro k hk
      rcases List.mem_cons.mp hk with rfl | hk
      · exact hn
      · exact hp k hk

theorem Keeps.run (keeps : engine.Keeps I K V S) {fuel : Nat} {computation : Trampoline ι κ α}
    {state : σ} {final : Finished α σ} (hc : computation.All I K V) (hs : S state)
    (h : engine.run fuel computation state = some final) : V final.value ∧ S final.state :=
  keeps.loop hc (by simp) hs h

end Keeps

section Simulates

variable {engine : Engine ι κ α σ} {engine' : Engine ι' κ' α' σ'} {I : ι → ι' → Prop}
  {K : κ → κ' → Prop} {V : α → α' → Prop} {S : σ → σ' → Prop}

/-- The ends of two runs that went side by side. -/
structure SameEnd (V : α → α' → Prop) (S : σ → σ' → Prop) (final : Finished α σ)
    (final' : Finished α' σ') : Prop where
  value : V final.value final'.value
  steps : final.steps = final'.steps
  deepest : final.deepest = final'.deepest
  state : S final.state final'.state

/-- Related computations with related continuations go side by side, turn by turn. -/
theorem Simulates.loop (simulates : engine.Simulates engine' I K V S) {fuel : Nat}
    {computation : Trampoline ι κ α} {computation' : Trampoline ι' κ' α'} {pending : List κ}
    {pending' : List κ'} {depth steps deepest : Nat} {state : σ} {state' : σ'}
    (hc : computation.Related I K V computation') (hp : List.Forall₂ K pending pending')
    (hs : S state state') :
    Option.Rel (SameEnd V S)
      (engine.loop fuel computation pending depth steps deepest state)
      (engine'.loop fuel computation' pending' depth steps deepest state') := by
  induction fuel generalizing computation computation' pending pending' depth steps deepest state
    state' with
  | zero => exact .none
  | succ fuel ih =>
    cases hc with
    | done hv =>
      cases hp with
      | nil => exact .some ⟨hv, rfl, rfl, hs⟩
      | cons hn hp =>
        obtain ⟨hc, hs⟩ := simulates.resume hn hv hs
        exact ih hc hp hs
    | more hi =>
      obtain ⟨hc, hs⟩ := simulates.call hi hs
      exact ih hc hp hs
    | flatMap hc hn => exact ih hc (.cons hn hp) hs

theorem Simulates.run (simulates : engine.Simulates engine' I K V S) (fuel : Nat)
    {computation : Trampoline ι κ α} {computation' : Trampoline ι' κ' α'}
    (hc : computation.Related I K V computation') (state : σ) (state' : σ')
    (hs : S state state') :
    Option.Rel (SameEnd V S) (engine.run fuel computation state)
      (engine'.run fuel computation' state') :=
  simulates.loop hc .nil hs

end Simulates

end Engine

end SafeDescent
