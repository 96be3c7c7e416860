import SafeDescent.Parser.Text
import SafeDescent.Proofs.Session.HandleRuns
import SafeDescent.Proofs.Session.SettledSessions
import SafeDescent.Reader.Text

namespace SafeDescent

variable {ρ ε : Type} {store : Store}

namespace Session

variable {session : Session ε} {more : Parser ε → Prop} {number : Nat}

section

variable [Reader ρ ε] [Element ε] [DecidableEq ε] {library : Library ε}

theorem Settled.parse (h : session.Settled) (hl : library.Plain) {parser : Parser ε}
    (hp : parser.Startable session.Owns) {fuel : Nat} {extent : Extent} {input : ρ}
    {report : Report ρ} {store : Store}
    (parsed : session.store.parse library fuel extent parser input = some (report, store)) :
    ({ session with store := store } : Session ε).Settled where
  ordered := h.ordered.withStore store
  fits := h.fits
  handles := by
    obtain ⟨starts, ended, state, runs, -, rfl, -⟩ := Store.parse_runs parsed
    have silent : session.store.silence.HandlesOwned session.Owns := h.handles.of_eq rfl rfl
    -- The definitions stay as they are, so only the handles that the run leaves are to be looked at.
    have kept := (parsing_keeps_startable hl fun _ => h.startable).evaluates (.more hp) silent
      (Parser.runs_iff_evaluates.mp runs)
    exact kept.2.of_eq (extent.close_handles ended state) (extent.close_built ended state)

/-- The bodies that a step brings are as they are written. -/
def Step.Plain (step : Step ρ ε) : Prop :=
  ∀ kind name imports body, step = .define kind name imports body → body.Plain

/-- What steps make of an empty session. -/
inductive Reached (ρ : Type) [Reader ρ ε] (library : Library ε) : Session ε → Prop
  | empty : Reached ρ library {}
  | step {session next : Session ε} {fuel : Nat} {step : Step ρ ε} {reply : Reply ρ} :
      Reached ρ library session → step.Plain →
      session.perform library fuel step = some (reply, next) → Reached ρ library next

theorem Reached.settled (hl : library.Plain) (h : Reached ρ library session) : session.Settled := by
  induction h with
  | empty => exact settled_empty
  | step _ plain done ih =>
    rcases perform_cases done with ⟨kind, name, imports, body, rfl, rfl⟩ | ⟨name, -, rfl⟩ | rfl |
      ⟨name, parser, extent, input, report, store, source, parsed, rfl⟩
    · exact ih.define kind name imports (plain kind name imports body rfl)
    · exact ih.drop name
    · exact ih
    · exact ih.parse hl (ih.startable_of_name source) parsed

theorem Reached.define (h : Reached ρ library session) (kind : Kind) (name : String)
    (imports : List String) {body : Parser ε} (plain : body.Plain) :
    Reached ρ library (session.define kind name imports body) := by
  have brings : (Step.define kind name imports body : Step ρ ε).Plain := by
    rintro _ _ _ _ same
    cases same
    exact plain
  have done : session.perform library 0 (.define kind name imports body : Step ρ ε) =
      some (.defined, session.define kind name imports body) := rfl
  exact .step h brings done

theorem Reached.drop (h : Reached ρ library session) (name : String) :
    Reached ρ library (session.drop name).2 := by
  have done : session.perform library 0 (.drop name : Step ρ ε) =
      some (.dropped (session.drop name).1, (session.drop name).2) := rfl
  have brings : (Step.drop name : Step ρ ε).Plain := nofun
  exact .step h brings done

/-- A handle was left by a recursive definition when it was built. It leads nowhere, with a fatal
error where the parse starts and a warning, if and only if that definition does not live. As long as
it lives, the handle parses as the definition itself does, whatever the name stands for by then.
What makes a definition live is its name or a later definition, never its own handle. -/
theorem handle_leads_to_live_definition (hl : library.Plain) (reached : session.Reached ρ library)
    {name : String} {label : Label} (stored : session.store.handle? name = some label) :
    ∃ site body definition handle, session.installed[label.number]? = some definition ∧
      definition.parser = .fixpoint site name body ∧ site.label = some label ∧
      session.store.isBuilt site.path = true ∧ session.handle? name = some handle ∧
      (∀ (input : ρ) store,
        Start.call library ⟨handle, input⟩ store = store.dangle input ↔
          ¬ session.Live label.number) ∧
      (¬ session.Live label.number → ∀ fuel extent (input : ρ),
        session.perform library (fuel + 2) (.handle name extent input) =
          some (.parsed (.dangling extent input), { session with
            store := session.store.recall (.dangling extent input) })) ∧
      (session.Live label.number → ∀ fuel extent (input : ρ),
        session.perform library (fuel + 1) (.handle name extent input) =
          session.run library fuel extent definition.parser input) ∧
      (session.Live label.number ↔ (∃ other, session.lookup other = some label.number) ∨
        ∃ holder, label.number < holder ∧ session.Live holder ∧
          session.Holds holder label.number) := by
  have settled := reached.settled hl
  obtain ⟨site, body, definition, found, same, labelled, kept, built, alive, dead⟩ :=
    settled.handle_eq stored
  have owners : session.Live label.number ↔ (∃ other, session.lookup other = some label.number) ∨
      ∃ holder, label.number < holder ∧ session.Live holder ∧ session.Holds holder label.number :=
    settled.ordered.live_iff
  by_cases live : session.Live label.number
  · have leads := alive live
    refine ⟨site, body, definition, _, found, same, labelled, built, leads, ?_,
      fun none => (none live).elim, fun _ fuel extent input => ?_, owners⟩
    · intro input store
      have call : Start.call library ⟨.handle site name body, input⟩ store =
          (.more ⟨.fixpoint site name body, input⟩, store) := by
        simp only [Start.call, kept, if_true]
      rw [call]
      refine ⟨fun dangles => ?_, fun none => (none live).elim⟩
      cases (Prod.mk.inj dangles).1
    · have turn : session.store.parse library (fuel + 1) extent (.handle site name body) input =
          session.store.parse library fuel extent (.fixpoint site name body) input :=
        Store.parse_handle kept name body session.store fuel extent input
      simp only [perform, leads, run, same, turn]
  · have leads := dead live
    refine ⟨site, body, definition, _, found, same, labelled, built, leads,
      fun input store => ⟨fun _ => live, fun _ => rfl⟩, fun _ fuel extent input => ?_,
      fun none => (live none).elim, owners⟩
    have ends : session.store.parse library (fuel + 2) extent (.reference (.binder name)) input =
        some (.dangling extent input, session.store.recall (.dangling extent input)) :=
      session.store.parse_reference fuel extent (.binder name) input
    simp only [perform, leads, run, ends, Option.map_some]

end

/-- A definition is built, another one that uses it is made, and its name is given to a third. The
handle still leads to the first, until the one that uses it goes. -/
theorem handle_leads_to_live_definition_replaced :
    let library : Library Char := fun _ => none
    let site : Site := ⟨[0], true, some ⟨"r", 0⟩⟩
    ∃ session : Session Char, session.Reached TextReader library ∧ session.lookup "r" = some 2 ∧
      session.store.handle? "r" = some ⟨"r", 0⟩ ∧
      (∀ fuel extent (input : TextReader),
        session.perform library (fuel + 1) (.handle "r" extent input) =
          session.run library fuel extent (.fixpoint site "r" .digit) input) ∧
      ∀ fuel extent (input : TextReader),
        (session.drop "s").2.perform library (fuel + 2) (.handle "r" extent input) =
          some (.parsed (.dangling extent input), { (session.drop "s").2 with
            store := session.store.recall (.dangling extent input) }) := by
  intro library site
  have plain : library.Plain := nofun
  let first : Session Char := ({} : Session Char).define .recursive "r" [] .digit
  let built : Session Char := { first with store := first.store.silence.buildRecursive site }
  let user := built.define .plain "s" ["r"] (.reference (.definition "r"))
  let session := user.define .plain "r" [] .letter
  have reached : session.Reached TextReader library := by
    have parsed : first.perform library 4 (.parse "r" .part (TextReader.ofString "7")) =
        some (.parsed ⟨.success (.char '7') (TextReader.ofString "7").rest,
          built.store.events.reverse, built.store.records.reverse⟩, built) := rfl
    have brings : (Step.parse "r" .part (TextReader.ofString "7") : Step TextReader Char).Plain :=
      nofun
    have digit : (Parser.digit : Parser Char).Plain := trivial
    have reference : (Parser.reference (.definition "r") : Parser Char).Plain := trivial
    have letter : (Parser.letter : Parser Char).Plain := trivial
    have after : built.Reached TextReader library :=
      .step (Reached.empty.define .recursive "r" [] digit) brings parsed
    exact (after.define .plain "s" ["r"] reference).define .plain "r" [] letter
  have handles : session.store.handles = [⟨"r", 0⟩] := by
    change (first.store.silence.buildRecursive site).handles = _
    have unbuilt : first.store.silence.isBuilt site.path = false := Std.HashSet.contains_empty
    rw [Store.buildRecursive_handles, unbuilt]
    rfl
  have stored : session.store.handle? "r" = some ⟨"r", 0⟩ := by
    rw [Store.handle?, handles]
    rfl
  have installed : session.installed[0]? = some (install .recursive ⟨"r", 0⟩ [0] [] .digit) := rfl
  have named : session.lookup "s" = some 1 := rfl
  have live : session.Live 0 := .held (.table named) ⟨_, rfl, List.mem_singleton_self 0⟩
  have dead : ¬ (session.drop "s").2.Live 0 := by
    rw [← ((reached.drop "s").settled plain).ordered.mem_live]
    decide
  obtain ⟨_, _, definition, _, found, -, -, -, -, -, -, leads, -⟩ :=
    handle_leads_to_live_definition plain reached stored
  obtain ⟨_, _, _, _, -, -, -, -, -, -, dangles, -⟩ :=
    handle_leads_to_live_definition plain (reached.drop "s") stored
  have same : definition = install .recursive ⟨"r", 0⟩ [0] [] .digit :=
    Option.some.inj (found.symm.trans installed)
  subst same
  exact ⟨session, reached, rfl, stored, leads live, dangles dead⟩

end Session

end SafeDescent
