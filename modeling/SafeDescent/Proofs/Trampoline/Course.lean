import SafeDescent.Proofs.Trampoline.Evaluation

namespace SafeDescent.Engine

variable {ι κ α σ : Type}

/-- In the course of a computation an engine comes to another one. Until then it has called the
given thunks in order, and the given continuations wait for what the other computation yields, the
innermost first. -/
inductive Visits (engine : Engine ι κ α σ) : Trampoline ι κ α → σ → List ι → List κ →
    Trampoline ι κ α → σ → Prop
  | here (computation : Trampoline ι κ α) (state : σ) :
      Visits engine computation state [] [] computation state
  | more {thunk : ι} {current : Trampoline ι κ α} {state now : σ} {calls : List ι}
      {pending : List κ} :
      Visits engine (engine.call thunk state).1 (engine.call thunk state).2 calls pending current
        now → Visits engine (.more thunk) state (thunk :: calls) pending current now
  | first {first current : Trampoline ι κ α} {next : κ} {state now : σ} {calls : List ι}
      {pending : List κ} :
      Visits engine first state calls pending current now →
        Visits engine (.flatMap first next) state calls (pending ++ [next]) current now
  | second {first current : Trampoline ι κ α} {next : κ} {head : α} {state middle now : σ}
      {calls more : List ι} {pending : List κ} :
      engine.Evaluates first state calls head middle →
      Visits engine (engine.resume next head middle).1 (engine.resume next head middle).2 more
        pending current now →
        Visits engine (.flatMap first next) state (calls ++ more) pending current now

/-- What is known of the state after some calls, as long as every step keeps it. -/
structure Tracks (engine : Engine ι κ α σ) (T : List ι → σ → Prop) : Prop where
  call (calls : List ι) (thunk : ι) {state : σ} : T calls state →
    T (calls ++ [thunk]) (engine.call thunk state).2
  resume (calls : List ι) (next : κ) (value : α) {state : σ} : T calls state →
    T calls (engine.resume next value state).2

/-- Properties that the steps of an engine keep, of the thunks that are really called, and as long
as the state stays fine to the end. A step never mends a state. -/
structure Upholds (engine : Engine ι κ α σ) (called : ι → Prop) (fine : σ → Prop) (I : ι → Prop)
    (K : κ → Prop) (V : α → Prop) : Prop where
  call {thunk : ι} {state : σ} : called thunk → I thunk → fine (engine.call thunk state).2 →
    (engine.call thunk state).1.All I K V
  resume {next : κ} {value : α} (state : σ) : K next → V value →
    (engine.resume next value state).1.All I K V
  spoilt : engine.Tracks fun _ state => ¬ fine state

/-- Properties of thunks and continuations in a world, as long as each step keeps them in the same
world or in a larger one. -/
structure Grows (engine : Engine ι κ α σ) {ω : Type} (le : ω → ω → Prop) (I : ω → ι → Prop)
    (K : ω → κ → Prop) (S : ω → σ → Prop) : Prop where
  refl (world : ω) : le world world
  trans {first second third : ω} : le first second → le second third → le first third
  thunk {world larger : ω} {thunk : ι} : le world larger → I world thunk → I larger thunk
  next {world larger : ω} {next : κ} : le world larger → K world next → K larger next
  call {world : ω} {thunk : ι} {state : σ} : I world thunk → S world state →
    ∃ larger, le world larger ∧ S larger (engine.call thunk state).2 ∧
      (engine.call thunk state).1.All (I larger) (K larger) fun _ => True
  resume {world : ω} {next : κ} {state : σ} (value : α) : K world next → S world state →
    ∃ larger, le world larger ∧ S larger (engine.resume next value state).2 ∧
      (engine.resume next value state).1.All (I larger) (K larger) fun _ => True

variable {engine : Engine ι κ α σ}

theorem Evaluates.unique {computation : Trampoline ι κ α} {state last last' : σ}
    {calls calls' : List ι} {value value' : α}
    (h : engine.Evaluates computation state calls value last)
    (h' : engine.Evaluates computation state calls' value' last') :
    calls' = calls ∧ value' = value ∧ last' = last := by
  induction h generalizing calls' value' last' with
  | done value state => exact evaluates_done_iff.mp h'
  | more _ ih =>
    obtain ⟨rest, rfl, evaluates⟩ := evaluates_more_iff.mp h'
    obtain ⟨rfl, rfl, rfl⟩ := ih evaluates
    exact ⟨rfl, rfl, rfl⟩
  | flatMap _ _ ih ih' =>
    obtain ⟨before, after, head, middle, rfl, evaluates, evaluates'⟩ :=
      evaluates_flatMap_iff.mp h'
    obtain ⟨rfl, rfl, rfl⟩ := ih evaluates
    obtain ⟨rfl, rfl, rfl⟩ := ih' evaluates'
    exact ⟨rfl, rfl, rfl⟩

theorem Evaluates.visits {computation : Trampoline ι κ α} {state last : σ}
    {before after : List ι} {thunk : ι} {value : α}
    (h : engine.Evaluates computation state (before ++ thunk :: after) value last) :
    ∃ pending now, engine.Visits computation state before pending (.more thunk) now := by
  generalize same : before ++ thunk :: after = calls at h
  induction h generalizing before after with
  | done value state => simp at same
  | @more other state last calls value _ ih =>
    cases before with
    | nil =>
      obtain ⟨rfl, -⟩ := List.cons.inj same
      exact ⟨[], state, .here _ _⟩
    | cons first before =>
      obtain ⟨rfl, rest⟩ := List.cons.inj same
      obtain ⟨pending, now, visits⟩ := ih rest
      exact ⟨pending, now, .more visits⟩
  | @flatMap first next state middle last calls more head value evaluates _ ih ih' =>
    -- The call is one of the first computation or of what comes after it.
    rcases List.append_eq_append_iff.mp same with ⟨early, rfl, rest⟩ | ⟨late, rfl, rest⟩
    · cases early with
      | nil =>
        obtain ⟨pending, now, visits⟩ := @ih' [] after rest
        exact ⟨pending, now, by simpa using Visits.second evaluates visits⟩
      | cons other early =>
        obtain ⟨rfl, rfl⟩ := List.cons.inj rest
        obtain ⟨pending, now, visits⟩ := ih rfl
        exact ⟨pending ++ [next], now, .first visits⟩
    · obtain ⟨pending, now, visits⟩ := ih' rest.symm
      exact ⟨pending, now, .second evaluates visits⟩

/-- The counters of a run have no influence on its value and its last state. -/
theorem loop_counters (engine : Engine ι κ α σ) (fuel : Nat) (computation : Trampoline ι κ α)
    (pending : List κ) (depth depth' steps steps' deepest deepest' : Nat) (state : σ) :
    (engine.loop fuel computation pending depth steps deepest state).map
        (fun final => (final.value, final.state)) =
      (engine.loop fuel computation pending depth' steps' deepest' state).map
        fun final => (final.value, final.state) := by
  induction fuel generalizing computation pending depth depth' steps steps' deepest deepest'
    state with
  | zero => rfl
  | succ fuel ih =>
    cases computation with
    | done value =>
      cases pending with
      | nil => rfl
      | cons next pending => exact ih ..
    | more thunk => exact ih ..
    | flatMap first next => exact ih ..

section Tracks

variable {T : List ι → σ → Prop} {computation current : Trampoline ι κ α} {state last now : σ}
  {calls : List ι} {pending : List κ} {value : α}

theorem Tracks.evaluates (tracks : engine.Tracks T) (before : List ι) (known : T before state)
    (h : engine.Evaluates computation state calls value last) : T (before ++ calls) last := by
  induction h generalizing before with
  | done value state =>
    rw [List.append_nil]
    exact known
  | more _ ih =>
    have called := ih _ (tracks.call before _ known)
    rwa [List.append_assoc] at called
  | flatMap _ _ ih ih' =>
    have resumed := ih' _ (tracks.resume _ _ _ (ih before known))
    rwa [List.append_assoc] at resumed

theorem Tracks.visits (tracks : engine.Tracks T) (before : List ι) (known : T before state)
    (h : engine.Visits computation state calls pending current now) :
    T (before ++ calls) now := by
  induction h generalizing before with
  | here computation state =>
    rw [List.append_nil]
    exact known
  | more _ ih =>
    have called := ih _ (tracks.call before _ known)
    rwa [List.append_assoc] at called
  | first _ ih => exact ih before known
  | second evaluates _ ih =>
    have resumed := ih _ (tracks.resume _ _ _ (tracks.evaluates before known evaluates))
    rwa [List.append_assoc] at resumed

end Tracks

theorem Keeps.evaluates {I : ι → Prop} {K : κ → Prop} {V : α → Prop} {S : σ → Prop}
    (keeps : engine.Keeps I K V S) {computation : Trampoline ι κ α} {state last : σ}
    {calls : List ι} {value : α} (hc : computation.All I K V) (hs : S state)
    (h : engine.Evaluates computation state calls value last) : V value ∧ S last := by
  induction h with
  | done value state =>
    cases hc with
    | done hv => exact ⟨hv, hs⟩
  | more _ ih =>
    cases hc with
    | more hi =>
      obtain ⟨hc, hs⟩ := keeps.call hi hs
      exact ih hc hs
  | flatMap _ _ ih ih' =>
    cases hc with
    | flatMap hf hk =>
      obtain ⟨hv, hs⟩ := ih hf hs
      obtain ⟨hc, hs⟩ := keeps.resume hk hv hs
      exact ih' hc hs

theorem Upholds.evaluates {called : ι → Prop} {fine : σ → Prop} {I : ι → Prop} {K : κ → Prop}
    {V : α → Prop} (upholds : engine.Upholds called fine I K V) {computation : Trampoline ι κ α}
    {state last : σ} {calls : List ι} {value : α} (hc : computation.All I K V)
    (hcalls : ∀ thunk ∈ calls, called thunk) (ended : fine last)
    (h : engine.Evaluates computation state calls value last) : V value := by
  have earlier {c : Trampoline ι κ α} {s t : σ} {cs : List ι} {v : α}
      (evaluates : engine.Evaluates c s cs v t) (later : fine t) : fine s := by
    by_contra spoilt
    have after := upholds.spoilt.evaluates [] spoilt evaluates
    exact after later
  induction h with
  | done value state =>
    cases hc with
    | done hv => exact hv
  | more rest ih =>
    cases hc with
    | more hi =>
      have now := upholds.call (hcalls _ (by simp)) hi (earlier rest ended)
      exact ih now (fun thunk hm => hcalls thunk (by simp [hm])) ended
  | @flatMap first next state middle last calls more head value _ rest ih ih' =>
    cases hc with
    | flatMap hf hk =>
      have before : fine middle := by
        by_contra spoilt
        have resumed := upholds.spoilt.resume [] next head spoilt
        exact resumed (earlier rest ended)
      have hv := ih hf (fun thunk hm => hcalls thunk (by simp [hm])) before
      exact ih' (upholds.resume middle hk hv) (fun thunk hm => hcalls thunk (by simp [hm])) ended

/-- What is called on the way has its properties in the world at the end. -/
theorem Grows.evaluates {ω : Type} {le : ω → ω → Prop} {I : ω → ι → Prop} {K : ω → κ → Prop}
    {S : ω → σ → Prop} (grows : engine.Grows le I K S) {computation : Trampoline ι κ α}
    {state last : σ} {calls : List ι} {value : α} {world : ω}
    (hc : computation.All (I world) (K world) fun _ => True) (hs : S world state)
    (h : engine.Evaluates computation state calls value last) :
    ∃ larger, le world larger ∧ S larger last ∧ ∀ thunk ∈ calls, I larger thunk := by
  induction h generalizing world with
  | done value state => exact ⟨world, grows.refl world, hs, by simp⟩
  | @more thunk state last calls value _ ih =>
    cases hc with
    | more hi =>
      obtain ⟨middle, le, hs, hc⟩ := grows.call hi hs
      obtain ⟨larger, le', hs, hcalls⟩ := ih hc hs
      have le := grows.trans le le'
      refine ⟨larger, le, hs, fun other hm => ?_⟩
      rcases List.mem_cons.mp hm with rfl | hm
      · exact grows.thunk le hi
      · exact hcalls other hm
  | @flatMap first next state middle last calls more head value _ _ ih ih' =>
    cases hc with
    | flatMap hf hk =>
      obtain ⟨early, le, hs, hcalls⟩ := ih hf hs
      obtain ⟨late, le', hs, hc⟩ := grows.resume head (grows.next le hk) hs
      obtain ⟨larger, le'', hs, hmore⟩ := ih' hc hs
      have le' := grows.trans le' le''
      refine ⟨larger, grows.trans le le', hs, fun other hm => ?_⟩
      rcases List.mem_append.mp hm with hm | hm
      · exact grows.thunk le' (hcalls other hm)
      · exact hmore other hm

end SafeDescent.Engine
