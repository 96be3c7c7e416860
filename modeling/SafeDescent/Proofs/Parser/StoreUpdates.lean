import SafeDescent.Parser.Store

namespace SafeDescent

variable {ρ ε : Type}

namespace Store

variable (store : Store)

@[simp] theorem note_built (record : Record) : (store.note record).built = store.built := rfl

@[simp] theorem note_records (record : Record) :
    (store.note record).records = record :: store.records := rfl

@[simp] theorem note_handles (record : Record) : (store.note record).handles = store.handles := rfl

@[simp] theorem note_roots (record : Record) : (store.note record).roots = store.roots := rfl

@[simp] theorem announce_roots (label : Option Label) :
    (store.announce label).roots = store.roots := by
  cases label <;> rfl

@[simp] theorem keepHandle_roots (label : Option Label) :
    (store.keepHandle label).roots = store.roots := by
  cases label <;> rfl

theorem build_eq (site : Site) :
    store.build site =
      if store.isBuilt site.path then store
      else (construct site store).2.note .lazyConstructed := by
  unfold build memo
  split <;> rfl

@[simp] theorem construct_roots (site : Site) :
    (construct site store).2.roots = store.roots := store.announce_roots site.label

@[simp] theorem build_roots (site : Site) : (store.build site).roots = store.roots := by
  rw [build_eq]
  split <;> simp

@[simp] theorem buildRecursive_roots (site : Site) :
    (store.buildRecursive site).roots = store.roots := by
  unfold buildRecursive
  split <;> simp

@[simp] theorem announce_built (label : Option Label) :
    (store.announce label).built = store.built := by
  cases label <;> rfl

@[simp] theorem announce_records (label : Option Label) :
    (store.announce label).records = store.records := by
  cases label <;> rfl

@[simp] theorem announce_handles (label : Option Label) :
    (store.announce label).handles = store.handles := by
  cases label <;> rfl

@[simp] theorem keepHandle_built (label : Option Label) :
    (store.keepHandle label).built = store.built := by
  cases label <;> rfl

@[simp] theorem keepHandle_records (label : Option Label) :
    (store.keepHandle label).records = store.records := by
  cases label <;> rfl

@[simp] theorem construct_built (site : Site) :
    (construct site store).2.built = store.built.insert site.path :=
  congrArg (·.insert site.path) (store.announce_built site.label)

@[simp] theorem construct_records (site : Site) :
    (construct site store).2.records = store.records := store.announce_records site.label

@[simp] theorem construct_handles (site : Site) :
    (construct site store).2.handles = store.handles := store.announce_handles site.label

theorem build_built (site : Site) :
    (store.build site).built =
      if store.isBuilt site.path then store.built else store.built.insert site.path := by
  rw [build_eq]
  split <;> simp

theorem build_records (site : Site) :
    (store.build site).records =
      if store.isBuilt site.path then store.records
      else .lazyConstructed :: store.records := by
  rw [build_eq]
  split <;> simp

@[simp] theorem build_handles (site : Site) : (store.build site).handles = store.handles := by
  rw [build_eq]
  split <;> simp

@[simp] theorem buildRecursive_built (site : Site) :
    (store.buildRecursive site).built = (store.build site).built := by
  unfold buildRecursive
  split
  next done => simp [build_built, done]
  next => simp [build_built, isBuilt]

@[simp] theorem buildRecursive_records (site : Site) :
    (store.buildRecursive site).records = (store.build site).records := by
  unfold buildRecursive
  split
  next done => simp [build_records, done]
  next => simp [build_records, isBuilt]

theorem buildRecursive_handles (site : Site) :
    (store.buildRecursive site).handles =
      if store.isBuilt site.path then store.handles
      else (store.keepHandle site.label).handles := by
  unfold buildRecursive
  split <;> simp

/-- A definition is built after a use of it, and nothing else comes to be built by that. -/
theorem isBuilt_build {site : Site} {path : List Nat} :
    (store.build site).isBuilt path = true ↔ store.isBuilt path = true ∨ site.path = path := by
  unfold isBuilt
  rw [build_built]
  split
  next done =>
    constructor
    · exact .inl
    · rintro (built | rfl)
      · exact built
      · exact done
  next new => simp [or_comm]

end Store

end SafeDescent
