import SafeDescent.Proofs.Parser.PlacedPaths
import SafeDescent.Proofs.Parser.Runs
import SafeDescent.Proofs.Parser.Steps
import SafeDescent.Proofs.Session.LabelledDefinitions

namespace SafeDescent

variable {ρ ε : Type} {owned : Parser ε → Prop} {store : Store}

variable [Reader ρ ε] [Element ε] [DecidableEq ε] {library : Library ε}

theorem Store.HandlesOwned.call (h : store.HandlesOwned owned) {start : Start ρ ε}
    (hs : start.parser.Startable owned) : (start.call library store).2.HandlesOwned owned := by
  intro label kept
  rcases (start.call_affects library store).mem_handles kept with
    earlier | ⟨site, name, body, same, labelled⟩
  · obtain ⟨site, body, labelled, own, done⟩ := h label earlier
    exact ⟨site, body, labelled, own, (start.isBuilt_call library store _).mpr (.inl done)⟩
  · have uses : start.Uses library site.path := by
      refine ⟨site, ?_, rfl⟩
      rw [Start.site?, same]
    have built := (start.isBuilt_call library store site.path).mpr (.inr uses)
    rw [same] at hs
    cases hs with
    | unlabelled h =>
      rw [h.1] at labelled
      cases labelled
    | labelled labelled' own _ =>
      obtain rfl := Option.some.inj (labelled.symm.trans labelled')
      exact ⟨site, body, labelled', own, built⟩

omit [Reader ρ ε] [Element ε] [DecidableEq ε] in
theorem Parser.Startable.opens (hl : library.Plain)
    (ho : ∀ parser, owned parser → parser.Startable owned) {parser : Parser ε}
    (h : parser.Startable owned) :
    parser.Opens library (Startable owned) (Unlabelled owned) (Unlabelled owned) := by
  cases h with
  | labelled labelled own hb => exact .unlabelled (hb.unfold (.inr own))
  | unlabelled h =>
    cases parser with
    | sequence combine first second => exact ⟨.unlabelled h.1, h.2⟩
    | choice first second => exact ⟨.unlabelled h.1, h.2⟩
    | flatMap body next => exact ⟨.unlabelled h.1, h.2⟩
    | select body index branches => exact ⟨.unlabelled h.1, h.2⟩
    | many | chain => exact h
    | adjust | tap | deferred => exact .unlabelled h
    | fixpoint site name body => exact .unlabelled (h.2.unfold (.inl h))
    | copied site name scope =>
      intro body defined
      have copy := ((hl name body defined).unlabelled owned).substitute h
      exact .unlabelled (copy.place ..)
    | handle site name body =>
      rcases h with inner | own
      · exact .unlabelled inner
      · exact ho _ own
    | shared body => exact ho body h
    | primitive | reference => trivial

/-- A parse starts no labelled definitions but those of the session. -/
theorem parsing_keeps_startable (hl : library.Plain)
    (ho : ∀ parser, owned parser → parser.Startable owned) :
    (parsing library).Keeps (fun start : Start ρ ε => start.parser.Startable owned)
      (Frame.All (Parser.Unlabelled owned) (Parser.Unlabelled owned)) (fun _ => True)
      (Store.HandlesOwned owned) where
  call {start store} hs kept :=
    ⟨Start.call_all (hs.opens hl ho) (fun _ => .unlabelled) store, kept.call hs⟩
  resume {frame outcome store} hf _ kept := by
    have rest (bounds : Bounds) (operand separator : Parser ε) (ho : operand.Unlabelled owned)
        (hs : separator.Unlabelled owned) :
        (Parser.many bounds (.sequence Value.pair separator operand)).Startable owned :=
      .unlabelled ⟨hs, ho⟩
    have fresh (next : Value → Parser ε) (v : Value) (choosing : frame = .choosing next) :
        ((next v).place false [store.roots]).Startable owned := by
      subst choosing
      exact .unlabelled ((hf v).place ..)
    exact ⟨Frame.resume_all hf (fun _ => .unlabelled) rest fresh outcome,
      kept.of_eq (frame.resume_handles ..) (frame.resume_built ..)⟩

/-- A handle to a definition that is held takes one more turn than the definition itself. -/
theorem Store.parse_handle {site : Site} (kept : site.kept = true) (name : String)
    (body : Parser ε) (store : Store) (fuel : Nat) (extent : Extent) (input : ρ) :
    store.parse library (fuel + 1) extent (.handle site name body) input =
      store.parse library fuel extent (.fixpoint site name body) input := by
  have run (store : Store) : store.run library (fuel + 1) (.handle site name body) input =
      store.run library fuel (.fixpoint site name body) input := by
    have call : (parsing library).call ⟨.handle site name body, input⟩ store =
        (.more ⟨.fixpoint site name body, input⟩, store) := by
      simp only [parsing, Start.call, kept, if_true]
    unfold Store.run Engine.run
    rw [Engine.loop, call]
    exact Engine.loop_counters ..
  cases extent with
  | part => simp only [Store.parse, run]
  | whole => simp only [Store.parse, Store.runAll, run]

/-- What is reported of a parse through a handle that leads nowhere. -/
def Report.dangling (extent : Extent) (input : ρ) : Report ρ :=
  let message := "recursive parser is no longer alive"
  let stopped := match extent with
    | .part => []
    | .whole => [.parseAllStopped (Reader.offset input) message]
  ⟨.error message input, [], .danglingReference (Reader.offset input) :: stopped⟩

/-- The store with what a report tells as all that was recorded. -/
def Store.recall (store : Store) (report : Report ρ) : Store :=
  { store with records := report.records.reverse, events := report.events.reverse }

theorem Store.parse_reference (store : Store) (fuel : Nat) (extent : Extent) (target : Reference)
    (input : ρ) :
    store.parse library (fuel + 2) extent (.reference target) input =
      some (.dangling extent input, store.recall (.dangling extent input)) := by
  cases extent <;> rfl

end SafeDescent
