import SafeDescent.Proofs.Parser.OpenedParsers
import SafeDescent.Proofs.Trampoline.Course

namespace SafeDescent

variable {ρ ε : Type} [Reader ρ ε] [Element ε] [DecidableEq ε]

/-- What a start does to the store: it builds the definition that it asks for, or it asks for none
and records an event or that a reference leads nowhere. -/
inductive Start.Affects (library : Library ε) (start : Start ρ ε) (store : Store) : Store → Prop
  | deferred {site : Site} : start.site? library = some site →
      Affects library start store (store.build site)
  | fixpoint {site : Site} {name : String} {body : Parser ε} :
      start.parser = .fixpoint site name body → Affects library start store (store.buildRecursive site)
  | events (events : List Event) : start.site? library = none →
      Affects library start store { store with events := events }
  | dangling (offset : Nat) : start.site? library = none →
      Affects library start store (store.note (.danglingReference offset))

theorem Start.call_affects (library : Library ε) (start : Start ρ ε) (store : Store) :
    start.Affects library store (start.call library store).2 := by
  obtain ⟨parser, input⟩ := start
  cases parser with
  | chain join bounds operand separator =>
    simp only [Start.call]
    split <;> exact .events _ rfl
  | tap id body => exact .events _ rfl
  | deferred site body => exact .deferred rfl
  | fixpoint site name body => exact .fixpoint rfl
  | copied site name scope =>
    simp only [Start.call]
    cases defined : library name with
    | none => exact .dangling _ (by simp [Start.site?, defined])
    | some body => exact .deferred (by simp [Start.site?, defined])
  | reference target => exact .dangling _ rfl
  | handle site name body =>
    simp only [Start.call]
    split
    · exact .events _ rfl
    · exact .dangling _ rfl
  | _ => exact .events _ rfl

namespace Start.Affects

variable {library : Library ε} {start : Start ρ ε} {store last : Store}

omit [Reader ρ ε] [Element ε] [DecidableEq ε]

theorem built (h : start.Affects library store last) :
    last.built = ((start.site? library).elim store store.build).built := by
  cases h with
  | deferred asked =>
    rw [asked]
    rfl
  | fixpoint same =>
    rw [site?, same]
    exact store.buildRecursive_built _
  | events _ none =>
    rw [none]
    rfl
  | dangling _ none =>
    rw [none]
    rfl

theorem records (h : start.Affects library store last) :
    last.records = ((start.site? library).elim store store.build).records ∨
      start.site? library = none ∧ ∃ offset,
        last.records = .danglingReference offset :: store.records := by
  cases h with
  | deferred asked =>
    rw [asked]
    exact .inl rfl
  | fixpoint same =>
    rw [site?, same]
    exact .inl (store.buildRecursive_records _)
  | events _ none =>
    rw [none]
    exact .inl rfl
  | dangling offset none => exact .inr ⟨none, offset, rfl⟩

/-- Only a continuation gives numbers to parsers. -/
theorem roots (h : start.Affects library store last) : last.roots = store.roots := by
  cases h with
  | deferred _ => exact store.build_roots _
  | fixpoint _ => exact store.buildRecursive_roots _
  | events _ _ => rfl
  | dangling _ _ => rfl

/-- A new handle is that of the recursive definition that is built. -/
theorem mem_handles (h : start.Affects library store last) {label : Label}
    (kept : label ∈ last.handles) : label ∈ store.handles ∨
      ∃ site name body, start.parser = .fixpoint site name body ∧ site.label = some label := by
  cases h with
  | deferred _ =>
    rw [store.build_handles] at kept
    exact .inl kept
  | @fixpoint site name body same =>
    rw [store.buildRecursive_handles] at kept
    split at kept
    · exact .inl kept
    cases labelled : site.label with
    | none =>
      rw [labelled] at kept
      exact .inl kept
    | some own =>
      rw [labelled] at kept
      rcases List.mem_cons.mp kept with rfl | earlier
      · exact .inr ⟨site, name, body, same, labelled⟩
      · exact .inl (List.mem_of_mem_filter earlier)
  | events _ _ => exact .inl kept
  | dangling _ _ => exact .inl kept

end Start.Affects

theorem Start.isBuilt_call (library : Library ε) (start : Start ρ ε) (store : Store) (path : List Nat) :
    (start.call library store).2.isBuilt path = true ↔
      store.isBuilt path = true ∨ start.Uses library path := by
  have built : (start.call library store).2.isBuilt path =
      ((start.site? library).elim store store.build).isBuilt path := by
    unfold Store.isBuilt
    rw [(start.call_affects library store).built]
  rw [built]
  unfold Start.Uses
  cases start.site? library with
  | none => simp
  | some site => simp [Store.isBuilt_build]

/-- What holds of the records at first holds of them at any moment of a parse, as long as it is kept
when a building is recorded and when a reference that leads nowhere is. -/
theorem parsing_tracks_records (library : Library ε) (T : List Record → Prop)
    (building : ∀ records, T records → T (.lazyConstructed :: records))
    (dangling : ∀ offset records, T records → T (.danglingReference offset :: records)) :
    (parsing library : Engine (Start ρ ε) (Frame ρ ε) (Outcome ρ Value) Store).Tracks
      fun _ store => T store.records where
  call := by
    intro _ start store known
    change T (start.call library store).2.records
    rcases (start.call_affects library store).records with same | ⟨-, offset, more⟩
    · rw [same]
      cases start.site? library with
      | none => exact known
      | some site =>
        simp only [Option.elim, Store.build_records]
        split
        · exact known
        · exact building _ known
    · rw [more]
      exact dangling offset _ known
  resume := by
    intro _ frame outcome store known
    change T (frame.resume outcome store).2.records
    rw [frame.resume_records]
    exact known

theorem parsing_tracks_record (library : Library ε) (record : Record) :
    (parsing library : Engine (Start ρ ε) (Frame ρ ε) (Outcome ρ Value) Store).Tracks
      fun _ store => record ∈ store.records :=
  parsing_tracks_records library (record ∈ ·) (fun _ => List.mem_cons_of_mem _)
    fun _ _ => List.mem_cons_of_mem _

end SafeDescent
