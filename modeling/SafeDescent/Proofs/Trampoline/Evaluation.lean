import SafeDescent.Proofs.Trampoline.Simulation
import SafeDescent.Trampoline.Correspondence

namespace SafeDescent

variable {ι κ α σ : Type}

theorem Trampoline.Related.refl (computation : Trampoline ι κ α) :
    Trampoline.Related Eq Eq Eq computation computation := by
  induction computation with
  | done value => exact .done rfl
  | more thunk => exact .more rfl
  | flatMap first next ih => exact .flatMap ih rfl

namespace Engine

/-- The same engine, but the state also keeps the thunks that were called, the latest first. -/
def watched (engine : Engine ι κ α σ) : Engine ι κ α (σ × List ι) where
  call thunk state :=
    ((engine.call thunk state.1).1, ((engine.call thunk state.1).2, thunk :: state.2))
  resume next value state :=
    ((engine.resume next value state.1).1, ((engine.resume next value state.1).2, state.2))

/-- A computation ends with a value and a last state, and calls the given thunks in order. -/
inductive Evaluates (engine : Engine ι κ α σ) :
    Trampoline ι κ α → σ → List ι → α → σ → Prop
  | done (value : α) (state : σ) : Evaluates engine (.done value) state [] value state
  | more {thunk : ι} {state last : σ} {calls : List ι} {value : α} :
      Evaluates engine (engine.call thunk state).1 (engine.call thunk state).2 calls value last →
        Evaluates engine (.more thunk) state (thunk :: calls) value last
  | flatMap {first : Trampoline ι κ α} {next : κ} {state middle last : σ} {calls more : List ι}
      {head value : α} :
      Evaluates engine first state calls head middle →
      Evaluates engine (engine.resume next head middle).1 (engine.resume next head middle).2 more
        value last →
        Evaluates engine (.flatMap first next) state (calls ++ more) value last

/-- A computation comes to an end. -/
def Ends (engine : Engine ι κ α σ) (computation : Trampoline ι κ α) (state : σ) : Prop :=
  ∃ calls value last, engine.Evaluates computation state calls value last

variable {engine : Engine ι κ α σ}

theorem evaluates_done_iff {value result : α} {state last : σ} {calls : List ι} :
    engine.Evaluates (.done value) state calls result last ↔
      calls = [] ∧ result = value ∧ last = state := by
  constructor
  · intro h
    cases h
    exact ⟨rfl, rfl, rfl⟩
  · intro h
    obtain ⟨rfl, rfl, rfl⟩ := h
    exact .done _ _

theorem evaluates_more_iff {thunk : ι} {value : α} {state last : σ} {calls : List ι} :
    engine.Evaluates (.more thunk) state calls value last ↔
      ∃ rest, calls = thunk :: rest ∧
        engine.Evaluates (engine.call thunk state).1 (engine.call thunk state).2 rest value last := by
  constructor
  · intro h
    cases h with
    | more h => exact ⟨_, rfl, h⟩
  · intro h
    obtain ⟨rest, rfl, h⟩ := h
    exact .more h

theorem evaluates_flatMap_iff {first : Trampoline ι κ α} {next : κ} {value : α} {state last : σ}
    {calls : List ι} :
    engine.Evaluates (.flatMap first next) state calls value last ↔
      ∃ before after head middle, calls = before ++ after ∧
        engine.Evaluates first state before head middle ∧
        engine.Evaluates (engine.resume next head middle).1 (engine.resume next head middle).2 after
          value last := by
  constructor
  · intro h
    cases h with
    | flatMap h h' => exact ⟨_, _, _, _, rfl, h, h'⟩
  · intro h
    obtain ⟨before, after, head, middle, rfl, hfirst, hrest⟩ := h
    exact .flatMap hfirst hrest

theorem evaluates_of_eval {fuel : Nat} {computation : Trampoline ι κ α} {state : σ}
    {log : List ι} {final : Finished α (σ × List ι)}
    (h : engine.watched.eval fuel computation (state, log) = some final) :
    ∃ calls, engine.Evaluates computation state calls final.value final.state.1 ∧
      final.state.2 = calls.reverse ++ log := by
  induction fuel generalizing computation state log final with
  | zero => simp [eval] at h
  | succ fuel ih =>
    cases computation with
    | done value =>
      simp only [eval, Option.some.injEq] at h
      subst h
      exact ⟨[], .done value state, rfl⟩
    | more thunk =>
      simp only [eval, Option.map_eq_some_iff] at h
      obtain ⟨rest, hrest, rfl⟩ := h
      obtain ⟨calls, evaluates, hlog⟩ := ih hrest
      exact ⟨thunk :: calls, .more evaluates, by simp [hlog]⟩
    | flatMap first next =>
      simp only [eval, Option.bind_eq_some_iff, Option.map_eq_some_iff] at h
      obtain ⟨head, hhead, rest, hrest, rfl⟩ := h
      obtain ⟨calls, evaluates, hlog⟩ := ih hhead
      obtain ⟨more, evaluates', hlog'⟩ := ih hrest
      refine ⟨calls ++ more, .flatMap evaluates evaluates', ?_⟩
      change rest.state.2 = _
      rw [hlog', hlog]
      simp

theorem eval_of_evaluates {computation : Trampoline ι κ α} {state last : σ} {calls : List ι}
    {value : α} (h : engine.Evaluates computation state calls value last) (log : List ι) :
    ∃ fuel final, engine.watched.eval fuel computation (state, log) = some final ∧
      final.value = value ∧ final.state = (last, calls.reverse ++ log) := by
  induction h generalizing log with
  | done value state => exact ⟨1, _, rfl, rfl, rfl⟩
  | @more thunk state last calls value _ ih =>
    obtain ⟨fuel, final, heval, rfl, hstate⟩ := ih (thunk :: log)
    refine ⟨fuel + 1, { final with steps := final.steps + 1 }, ?_, rfl, ?_⟩
    · simp only [eval, Option.map_eq_some_iff]
      exact ⟨final, heval, rfl⟩
    · simp [hstate]
  | @flatMap first next state middle last calls more head value _ _ ih ih' =>
    obtain ⟨fuel, final, heval, rfl, hstate⟩ := ih log
    obtain ⟨fuel', final', heval', rfl, hstate'⟩ := ih' (calls.reverse ++ log)
    have heval := engine.watched.eval_mono (Nat.le_max_left fuel fuel') heval
    have heval' := engine.watched.eval_mono (Nat.le_max_right fuel fuel') heval'
    refine ⟨max fuel fuel' + 1, ⟨final'.value, 1 + final.steps + final'.steps,
      max (1 + final.deepest) final'.deepest, final'.state⟩, ?_, rfl, ?_⟩
    · simp only [eval, Option.bind_eq_some_iff, Option.map_eq_some_iff]
      refine ⟨final, heval, final', ?_, rfl⟩
      rw [hstate]
      exact heval'
    · simp [hstate']

theorem evaluates_iff_watched_run {computation : Trampoline ι κ α} {state last : σ}
    {calls : List ι} {value : α} :
    engine.Evaluates computation state calls value last ↔
      ∃ fuel final, engine.watched.run fuel computation (state, []) = some final ∧
        final.value = value ∧ final.state = (last, calls.reverse) := by
  constructor
  · intro h
    obtain ⟨fuel, final, heval, hvalue, hstate⟩ := eval_of_evaluates h []
    obtain ⟨turns, hrun⟩ := engine.watched.run_eq_some_iff.mpr ⟨fuel, heval⟩
    exact ⟨turns, final, hrun, hvalue, by simpa using hstate⟩
  · intro h
    obtain ⟨turns, final, hrun, rfl, hstate⟩ := h
    obtain ⟨fuel, heval⟩ := engine.watched.run_eq_some_iff.mp ⟨turns, hrun⟩
    obtain ⟨calls', evaluates, hlog⟩ := evaluates_of_eval heval
    rw [hstate] at evaluates hlog
    obtain rfl : calls = calls' := by simpa using hlog
    exact evaluates

/-- Watching changes nothing. -/
theorem watched_simulates : engine.watched.Simulates engine Eq Eq Eq (fun seen s => seen.1 = s) where
  call := by
    rintro thunk _ seen _ rfl rfl
    exact ⟨.refl _, rfl⟩
  resume := by
    rintro next _ value _ seen _ rfl rfl rfl
    exact ⟨.refl _, rfl⟩

theorem run_iff_evaluates {computation : Trampoline ι κ α} {state last : σ} {value : α} :
    (∃ fuel final, engine.run fuel computation state = some final ∧ final.value = value ∧
        final.state = last) ↔
      ∃ calls, engine.Evaluates computation state calls value last := by
  have sides (fuel : Nat) :=
    engine.watched_simulates.run fuel (.refl computation) (state, []) state rfl
  constructor
  · intro h
    obtain ⟨fuel, final, hrun, rfl, rfl⟩ := h
    have side := sides fuel
    rw [hrun] at side
    cases hw : engine.watched.run fuel computation (state, []) with
    | none =>
      rw [hw] at side
      cases side
    | some seen =>
      rw [hw] at side
      cases side with
      | some same =>
        obtain ⟨hvalue, -, -, hstate⟩ := same
        refine ⟨seen.state.2.reverse, evaluates_iff_watched_run.mpr ⟨fuel, seen, hw, hvalue, ?_⟩⟩
        rw [← hstate, List.reverse_reverse]
  · intro h
    obtain ⟨calls, evaluates⟩ := h
    obtain ⟨fuel, seen, hw, rfl, hseen⟩ := evaluates_iff_watched_run.mp evaluates
    have side := sides fuel
    rw [hw] at side
    cases hrun : engine.run fuel computation state with
    | none =>
      rw [hrun] at side
      cases side
    | some final =>
      rw [hrun] at side
      cases side with
      | some same =>
        obtain ⟨hvalue, -, -, hstate⟩ := same
        exact ⟨fuel, final, hrun, hvalue.symm, by rw [← hstate, hseen]⟩

/-- Where one of two computations that go side by side ends, so does the other. They call related
thunks in the same order. -/
theorem Simulates.evaluates {ι' κ' α' σ' : Type} {engine' : Engine ι' κ' α' σ'} {I : ι → ι' → Prop}
    {K : κ → κ' → Prop} {V : α → α' → Prop} {S : σ → σ' → Prop}
    (simulates : engine.Simulates engine' I K V S) {computation : Trampoline ι κ α}
    {computation' : Trampoline ι' κ' α'} (hc : computation.Related I K V computation')
    {state last : σ} {state' : σ'} (hs : S state state') {calls : List ι} {value : α}
    (h : engine.Evaluates computation state calls value last) :
    ∃ calls' value' last', engine'.Evaluates computation' state' calls' value' last' ∧
      V value value' ∧ S last last' ∧ List.Forall₂ I calls calls' := by
  induction h generalizing computation' state' with
  | done value state =>
    cases hc with
    | done hv => exact ⟨[], _, state', .done _ _, hv, hs, .nil⟩
  | more _ ih =>
    cases hc with
    | more hi =>
      obtain ⟨related, hs⟩ := simulates.call hi hs
      obtain ⟨calls', value', last', evaluates, hv, hs, hcalls⟩ := ih related hs
      exact ⟨_, value', last', .more evaluates, hv, hs, .cons hi hcalls⟩
  | flatMap _ _ ih ih' =>
    cases hc with
    | flatMap hc hk =>
      obtain ⟨calls', head', middle', evaluates, hv, hs, hcalls⟩ := ih hc hs
      obtain ⟨related, hs⟩ := simulates.resume hk hv hs
      obtain ⟨more', value', last', evaluates', hv', hs', hmore⟩ := ih' related hs
      exact ⟨_, value', last', .flatMap evaluates evaluates', hv', hs', List.rel_append hcalls hmore⟩

theorem Ends.done (value : α) (state : σ) : engine.Ends (.done value) state :=
  ⟨[], value, state, .done value state⟩

theorem Ends.more {thunk : ι} {state : σ}
    (h : engine.Ends (engine.call thunk state).1 (engine.call thunk state).2) :
    engine.Ends (.more thunk) state := by
  obtain ⟨calls, value, last, evaluates⟩ := h
  exact ⟨_, value, last, .more evaluates⟩

theorem Ends.flatMap {first : Trampoline ι κ α} {next : κ} {state : σ}
    (h : engine.Ends first state)
    (rest : ∀ calls value middle, engine.Evaluates first state calls value middle →
      engine.Ends (engine.resume next value middle).1 (engine.resume next value middle).2) :
    engine.Ends (.flatMap first next) state := by
  obtain ⟨calls, head, middle, evaluates⟩ := h
  obtain ⟨more, value, last, evaluates'⟩ := rest calls head middle evaluates
  exact ⟨_, value, last, .flatMap evaluates evaluates'⟩

end Engine

end SafeDescent
