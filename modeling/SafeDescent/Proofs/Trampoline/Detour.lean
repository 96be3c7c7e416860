import SafeDescent.Proofs.Trampoline.Delay

namespace SafeDescent.Engine

variable {ι κ α σ : Type}

/-- The continuation ends with any value that it gets, up to the relation. -/
def HandsBack (engine : Engine ι κ α σ) (V : α → α → Prop) (next : κ) : Prop :=
  ∀ value state, ∃ passed, (engine.resume next value state).1 = .done passed ∧ V value passed

/-- The thunk calls another one, and hands back what that one comes to. -/
def Relays (engine : Engine ι κ α σ) (V : α → α → Prop) (thunk inner : ι) : Prop :=
  ∃ next, (∀ state, (engine.call thunk state).1 = .flatMap (.more inner) next) ∧
    engine.HandsBack V next

/-- The two thunks are related and yield the like, whatever the states, or one of them is a silent
thunk that relays a thunk for which this holds. -/
inductive Abreast (engine engine' : Engine ι κ α σ) (silent : ι → Bool) (I : ι → ι → Prop)
    (K : κ → κ → Prop) (V : α → α → Prop) : ι → ι → Prop
  | meets {thunk thunk' : ι} : silent thunk = false → silent thunk' = false → I thunk thunk' →
      (∀ state state', Trampoline.Related I K V (engine.call thunk state).1
        (engine'.call thunk' state').1) → Abreast engine engine' silent I K V thunk thunk'
  | first {thunk inner thunk' : ι} : silent thunk = true → engine.Relays V thunk inner →
      Abreast engine engine' silent I K V inner thunk' →
        Abreast engine engine' silent I K V thunk thunk'
  | second {thunk thunk' inner : ι} : silent thunk' = true → engine'.Relays V thunk' inner →
      Abreast engine engine' silent I K V thunk inner →
        Abreast engine engine' silent I K V thunk thunk'

/-- Relations that each pair of steps keeps, where both engines may call silent thunks on the way.
The values of the two are equivalent. -/
structure Accompanies (engine engine' : Engine ι κ α σ) (silent : ι → Bool) (I : ι → ι → Prop)
    (K : κ → κ → Prop) (V : α → α → Prop) : Prop where
  equivalence : Equivalence V
  call {thunk thunk' : ι} : I thunk thunk' → engine.Abreast engine' silent I K V thunk thunk'
  resume {next next' : κ} {value value' : α} : K next next' → V value value' →
    ∀ state state', Trampoline.Related I K V (engine.resume next value state).1
      (engine'.resume next' value' state').1

/-- Related computations, where continuations may wait in the first one that hand back its value. -/
inductive Enclosed (engine engine' : Engine ι κ α σ) (silent : ι → Bool) (I : ι → ι → Prop)
    (K : κ → κ → Prop) (V : α → α → Prop) : Trampoline ι κ α → Trampoline ι κ α → Prop
  | bare {computation computation' : Trampoline ι κ α} :
      computation.Related (engine.Abreast engine' silent I K V) K V computation' →
        Enclosed engine engine' silent I K V computation computation'
  | within {computation computation' : Trampoline ι κ α} {next : κ} : engine.HandsBack V next →
      Enclosed engine engine' silent I K V computation computation' →
        Enclosed engine engine' silent I K V (.flatMap computation next) computation'

/-- The second computation ends with a value like the given one, and but for silent thunks it makes
like calls. -/
def Ensues (engine' : Engine ι κ α σ) (silent : ι → Bool) (I : ι → ι → Prop) (V : α → α → Prop)
    (calls : List ι) (value : α) (computation' : Trampoline ι κ α) (state' : σ) : Prop :=
  ∃ calls' value' last', engine'.Evaluates computation' state' calls' value' last' ∧
    V value value' ∧
    List.Forall₂ I (calls.filter (!silent ·)) (calls'.filter (!silent ·))

variable {engine engine' : Engine ι κ α σ} {silent : ι → Bool} {I : ι → ι → Prop}
  {K : κ → κ → Prop} {V : α → α → Prop}

theorem Accompanies.enclosed (accompanies : engine.Accompanies engine' silent I K V)
    {computation computation' : Trampoline ι κ α} (h : computation.Related I K V computation') :
    Enclosed engine engine' silent I K V computation computation' :=
  .bare (h.imp fun _ _ hi => accompanies.call hi)

/-- What relays a thunk ends when that thunk does. -/
theorem Ensues.relayed (equivalence : Equivalence V) {calls : List ι} {value : α}
    {thunk' inner : ι} (quiet : silent thunk' = true) (relays : engine'.Relays V thunk' inner)
    {state' : σ}
    (h : engine'.Ensues silent I V calls value (.more inner) (engine'.call thunk' state').2) :
    engine'.Ensues silent I V calls value (.more thunk') state' := by
  obtain ⟨next, yields, handsBack⟩ := relays
  obtain ⟨calls', value', last', evaluates, hv, hcalls⟩ := h
  obtain ⟨passed, resumed, same⟩ := handsBack value' last'
  have rest : engine'.Evaluates (engine'.resume next value' last').1
      (engine'.resume next value' last').2 [] passed (engine'.resume next value' last').2 := by
    rw [resumed]
    exact .done _ _
  have whole := Evaluates.flatMap evaluates rest
  rw [← yields state'] at whole
  refine ⟨_, passed, _, .more whole, equivalence.trans hv same, ?_⟩
  simpa [quiet] using hcalls

/-- A thunk abreast of one that has been called ends in the like way, if what encloses the like of
what the call has yielded does. -/
theorem Abreast.ensues (accompanies : engine.Accompanies engine' silent I K V) {thunk thunk' : ι}
    {state : σ} {calls : List ι} {value : α}
    (abreast : engine.Abreast engine' silent I K V thunk thunk')
    (yielded : ∀ computation' state',
      Enclosed engine engine' silent I K V (engine.call thunk state).1 computation' →
        engine'.Ensues silent I V calls value computation' state') (state' : σ) :
    engine'.Ensues silent I V (thunk :: calls) value (.more thunk') state' := by
  -- The thunk of the first engine has been called once and for all; those that the second one has
  -- to call silently before it meets the first are what the induction goes through.
  induction abreast generalizing state' with
  | @meets thunk thunk' loud loud' hi related =>
    have called := accompanies.enclosed (related state state')
    obtain ⟨calls', value', last', evaluates, hv, hcalls⟩ := yielded _ _ called
    refine ⟨thunk' :: calls', value', last', .more evaluates, hv, ?_⟩
    simpa [loud, loud'] using ⟨hi, hcalls⟩
  | @first thunk inner thunk' quiet relays abreast _ =>
    obtain ⟨next, yields, handsBack⟩ := relays
    have enclosed : Enclosed engine engine' silent I K V (engine.call thunk state).1
        (.more thunk') := by
      rw [yields state]
      exact .within handsBack (.bare (.more abreast))
    obtain ⟨calls', value', last', evaluates, hv, hcalls⟩ := yielded _ state' enclosed
    refine ⟨calls', value', last', evaluates, hv, ?_⟩
    simpa [quiet] using hcalls
  | second quiet relays _ ih => exact (ih yielded _).relayed accompanies.equivalence quiet relays

/-- Where one of two computations ends, so does the other. The two end with like values, and but
for silent thunks they make like calls in the same order. -/
theorem Accompanies.ensues (accompanies : engine.Accompanies engine' silent I K V)
    {computation computation' : Trampoline ι κ α} {state last : σ} {calls : List ι} {value : α}
    (enclosed : Enclosed engine engine' silent I K V computation computation')
    (h : engine.Evaluates computation state calls value last) (state' : σ) :
    engine'.Ensues silent I V calls value computation' state' := by
  -- By induction on the evaluation. What encloses a computation waits in the first engine only, so
  -- a continuation belongs to both engines (`bare`) or just hands back a value (`within`).
  induction h generalizing computation' state' with
  | done value state =>
    cases enclosed with
    | bare related =>
      cases related with
      | done hv => exact ⟨[], _, state', .done _ _, hv, .nil⟩
  | more _ ih =>
    cases enclosed with
    | bare related =>
      cases related with
      | more abreast => exact abreast.ensues accompanies (fun _ state' hc => ih hc state') state'
  | @flatMap first next state middle last calls more head value _ rest ih ih' =>
    cases enclosed with
    | bare related =>
      cases related with
      | flatMap related hk =>
        obtain ⟨calls', head', middle', evaluates, hv, hcalls⟩ := ih (.bare related) state'
        have resumed := accompanies.enclosed (accompanies.resume hk hv middle middle')
        obtain ⟨more', value', last', evaluates', hv', hmore⟩ := ih' resumed _
        refine ⟨_, value', last', .flatMap evaluates evaluates', hv', ?_⟩
        rw [List.filter_append, List.filter_append]
        exact List.rel_append hcalls hmore
    | within handsBack enclosed =>
      obtain ⟨calls', head', last', evaluates, hv, hcalls⟩ := ih enclosed state'
      obtain ⟨passed, resumed, same⟩ := handsBack head middle
      rw [resumed] at rest
      obtain ⟨rfl, rfl, -⟩ := evaluates_done_iff.mp rest
      refine ⟨calls', head', last', evaluates, ?_, ?_⟩
      · exact accompanies.equivalence.trans (accompanies.equivalence.symm same) hv
      · rwa [List.append_nil]

end SafeDescent.Engine
