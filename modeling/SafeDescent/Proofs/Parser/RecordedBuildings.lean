import SafeDescent.Proofs.Parser.Runs
import SafeDescent.Proofs.Parser.Steps

namespace SafeDescent

variable {ρ ε : Type}

/-- How often a definition was built, as far as it is recorded. -/
def Store.buildings (store : Store) : Nat := store.records.count .lazyConstructed

def Report.buildings (report : Report ρ) : Nat := report.records.count .lazyConstructed

theorem Store.build_buildings (store : Store) (site : Site) :
    (store.build site).built.size + store.buildings =
      store.built.size + (store.build site).buildings := by
  unfold Store.buildings
  rw [store.build_built, store.build_records]
  split
  · rfl
  next new =>
    have absent : site.path ∉ store.built := by simpa [Store.isBuilt] using new
    have size : (store.built.insert site.path).size = store.built.size + 1 := by
      rw [Std.HashSet.size_insert, if_neg absent]
    rw [size, List.count_cons_self]
    omega

variable [Reader ρ ε] [Element ε] [DecidableEq ε]

/-- The start builds a definition: it was not built before, and is built now. -/
def Start.Builds (library : Library ε) (start : Start ρ ε) (now : Store) (path : List Nat) : Prop :=
  now.isBuilt path = false ∧ (start.call library now).2.isBuilt path = true

variable {library : Library ε}

theorem Start.builds_iff (start : Start ρ ε) (now : Store) (path : List Nat) :
    start.Builds library now path ↔
      start.Uses library path ∧ ¬ now.isBuilt path = true := by
  rw [Start.Builds, start.isBuilt_call library]
  cases now.isBuilt path <;> simp

theorem Start.call_buildings (library : Library ε) (start : Start ρ ε) (store : Store) :
    (start.call library store).2.built.size + store.buildings =
      store.built.size + (start.call library store).2.buildings := by
  have affects := start.call_affects library store
  have built := affects.built
  rcases affects.records with records | ⟨none, offset, records⟩
  · unfold Store.buildings
    rw [built, records]
    cases start.site? library with
    | none => rfl
    | some site => exact store.build_buildings site
  · unfold Store.buildings
    rw [built, records, none, List.count_cons_of_ne (by simp)]
    rfl

/-- What is built at any moment of a parse is what was built before and what has been asked for. -/
theorem parsing_tracks_built (library : Library ε) (base : Store) :
    (parsing library : Engine (Start ρ ε) (Frame ρ ε) (Outcome ρ Value) Store).Tracks
      fun calls store => ∀ path, store.isBuilt path = true ↔
        base.isBuilt path = true ∨ ∃ start ∈ calls, start.Uses library path where
  call := by
    intro calls start store known path
    change (start.call library store).2.isBuilt path = true ↔ _
    rw [start.isBuilt_call, known path]
    simp only [List.mem_append, List.mem_singleton, or_and_right, exists_or, exists_eq_left, or_assoc]
  resume := by
    intro calls frame outcome store known path
    change (frame.resume outcome store).2.isBuilt path = true ↔ _
    rw [Store.isBuilt, frame.resume_built]
    exact known path

/-- Each building is recorded, and nothing else is recorded as one. -/
theorem parsing_tracks_buildings (library : Library ε) (base : Store) :
    (parsing library : Engine (Start ρ ε) (Frame ρ ε) (Outcome ρ Value) Store).Tracks
      fun _ store => store.built.size + base.buildings = base.built.size + store.buildings where
  call := by
    intro calls start store known
    have step := start.call_buildings library store
    change (start.call library store).2.built.size + _ = _ + (start.call library store).2.buildings
    omega
  resume := by
    intro calls frame outcome store known
    change (frame.resume outcome store).2.built.size + _ = _ + (frame.resume outcome store).2.buildings
    unfold Store.buildings at known ⊢
    rw [frame.resume_built, frame.resume_records]
    exact known

end SafeDescent
