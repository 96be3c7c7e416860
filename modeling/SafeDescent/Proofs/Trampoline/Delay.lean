import SafeDescent.Proofs.Trampoline.Evaluation

namespace SafeDescent

variable {ι κ α σ ι' κ' α' σ' : Type}

theorem Trampoline.Related.imp {I J : ι → ι' → Prop} {K : κ → κ' → Prop} {V : α → α' → Prop}
    (imp : ∀ thunk thunk', I thunk thunk' → J thunk thunk') {computation : Trampoline ι κ α}
    {computation' : Trampoline ι' κ' α'} (h : computation.Related I K V computation') :
    computation.Related J K V computation' := by
  induction h with
  | done hv => exact .done hv
  | more hi => exact .more (imp _ _ hi)
  | flatMap _ hk ih => exact .flatMap ih hk

namespace Engine

/-- The first thunk yields the like of what the second one yields, whatever the states, but it may
take some calls that yield nothing but the next thunk before. -/
inductive Delayed (engine : Engine ι κ α σ) (engine' : Engine ι' κ' α' σ') (I : ι → ι' → Prop)
    (K : κ → κ' → Prop) (V : α → α' → Prop) : ι → ι' → Prop
  | meets {thunk : ι} {thunk' : ι'} :
      (∀ state state', Trampoline.Related I K V (engine.call thunk state).1
        (engine'.call thunk' state').1) → Delayed engine engine' I K V thunk thunk'
  | waits {thunk later : ι} {thunk' : ι'} :
      (∀ state, (engine.call thunk state).1 = .more later) →
        Delayed engine engine' I K V later thunk' → Delayed engine engine' I K V thunk thunk'

/-- Relations that each pair of steps keeps, where the first engine may take more calls than the
second one. -/
structure Trails (engine : Engine ι κ α σ) (engine' : Engine ι' κ' α' σ') (I : ι → ι' → Prop)
    (K : κ → κ' → Prop) (V : α → α' → Prop) : Prop where
  call {thunk : ι} {thunk' : ι'} : I thunk thunk' → engine.Delayed engine' I K V thunk thunk'
  resume {next : κ} {next' : κ'} {value : α} {value' : α'} : K next next' → V value value' →
    ∀ state state', Trampoline.Related I K V (engine.resume next value state).1
      (engine'.resume next' value' state').1

variable {engine : Engine ι κ α σ} {engine' : Engine ι' κ' α' σ'} {I : ι → ι' → Prop}
  {K : κ → κ' → Prop} {V : α → α' → Prop}

/-- If the computation that may be late ends, then so does the other one. -/
theorem Trails.evaluates (trails : engine.Trails engine' I K V) {computation : Trampoline ι κ α}
    {computation' : Trampoline ι' κ' α'} {state last : σ} {calls : List ι} {value : α}
    (related : computation.Related (engine.Delayed engine' I K V) K V computation')
    (h : engine.Evaluates computation state calls value last) (state' : σ') :
    ∃ calls' value' last', engine'.Evaluates computation' state' calls' value' last' ∧
      V value value' := by
  have punctual {c : Trampoline ι κ α} {c' : Trampoline ι' κ' α'}
      (rel : c.Related I K V c') : c.Related (engine.Delayed engine' I K V) K V c' :=
    rel.imp fun _ _ hi => trails.call hi
  induction h generalizing computation' state' with
  | done value state =>
    cases related with
    | done hv => exact ⟨[], _, state', .done _ _, hv⟩
  | @more thunk state last calls value _ ih =>
    cases related with
    | @more _ thunk' delayed =>
      cases delayed with
      | meets rel =>
        have called := rel state state'
        obtain ⟨calls', value', last', evaluates, hv⟩ := ih (punctual called) _
        exact ⟨thunk' :: calls', value', last', .more evaluates, hv⟩
      | waits yields delayed =>
        have still : (engine.call thunk state).1.Related (engine.Delayed engine' I K V) K V
            (.more thunk') := by
          rw [yields]
          exact .more delayed
        exact ih still state'
  | @flatMap first next state middle last calls more head value _ _ ih ih' =>
    cases related with
    | flatMap rel hk =>
      obtain ⟨calls', head', middle', evaluates, hv⟩ := ih rel state'
      have resumed := trails.resume hk hv middle middle'
      obtain ⟨more', value', last', evaluates', hv'⟩ := ih' (punctual resumed) _
      exact ⟨calls' ++ more', value', last', .flatMap evaluates evaluates', hv'⟩

/-- A delayed thunk comes to an end if whatever is like what the other thunk yields does. -/
theorem Delayed.evaluates {thunk : ι} {thunk' : ι'}
    (delayed : engine.Delayed engine' I K V thunk thunk') {state' : σ'} {value' : α'}
    (yielded : ∀ {computation : Trampoline ι κ α},
      computation.Related I K V (engine'.call thunk' state').1 → ∀ state,
        ∃ calls value last, engine.Evaluates computation state calls value last ∧ V value value')
    (state : σ) :
    ∃ calls value last, engine.Evaluates (.more thunk) state calls value last ∧
      V value value' := by
  induction delayed generalizing state with
  | @meets thunk thunk' rel =>
    obtain ⟨calls, value, last, evaluates, hv⟩ := yielded (rel state state') _
    exact ⟨thunk :: calls, value, last, .more evaluates, hv⟩
  | @waits thunk later thunk' yields _ ih =>
    obtain ⟨calls, value, last, evaluates, hv⟩ := ih yielded (engine.call thunk state).2
    rw [← yields state] at evaluates
    exact ⟨thunk :: calls, value, last, .more evaluates, hv⟩

/-- If the computation that is never late ends, then so does the other one. -/
theorem Trails.evaluates_late (trails : engine.Trails engine' I K V)
    {computation : Trampoline ι κ α} {computation' : Trampoline ι' κ' α'} {state' last' : σ'}
    {calls' : List ι'} {value' : α'} (related : computation.Related I K V computation')
    (h : engine'.Evaluates computation' state' calls' value' last') (state : σ) :
    ∃ calls value last, engine.Evaluates computation state calls value last ∧ V value value' := by
  induction h generalizing computation state with
  | done value' state' =>
    cases related with
    | done hv => exact ⟨[], _, state, .done _ _, hv⟩
  | @more thunk' state' last' calls' value' _ ih =>
    cases related with
    | more hi => exact (trails.call hi).evaluates (fun rel => ih rel) state
  | @flatMap first' next' state' middle' last' calls' more' head' value' _ _ ih ih' =>
    cases related with
    | flatMap rel hk =>
      obtain ⟨calls, head, middle, evaluates, hv⟩ := ih rel state
      have resumed := trails.resume hk hv middle middle'
      obtain ⟨more, value, last, evaluates', hv'⟩ := ih' resumed _
      exact ⟨calls ++ more, value, last, .flatMap evaluates evaluates', hv'⟩

end Engine

end SafeDescent
