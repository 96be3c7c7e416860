import SafeDescent.Proofs.Parser.Outcome
import SafeDescent.Proofs.Trampoline.Course

namespace SafeDescent

variable {ρ ε : Type} [Reader ρ ε] [Element ε] [DecidableEq ε]

/-- A run of a parser: what it starts, in order and with the parser itself first, how it ends, and
what is remembered after it. -/
def Parser.Runs (library : Library ε) (parser : Parser ε) (input : ρ) (store : Store)
    (starts : List (Start ρ ε)) (outcome : Outcome ρ Value) (last : Store) : Prop :=
  ∃ fuel finished,
    (parsing library).watched.run fuel (.more ⟨parser, input⟩) (store, []) = some finished ∧
      finished.value = outcome ∧ finished.state = (last, starts.reverse)

/-- In the course of a run of a parser another one is applied. The starts before are given, and the
path from the parser to the place of the application, the innermost frame first. -/
def Parser.Applies (library : Library ε) (parser : Parser ε) (input : ρ) (store : Store)
    (before : List (Start ρ ε)) (path : List (Frame ρ ε)) (part : Start ρ ε) (now : Store) : Prop :=
  (parsing library).Visits (.more ⟨parser, input⟩) store before path (.more part) now

variable {library : Library ε} {parser : Parser ε} {input : ρ} {store last : Store}
  {starts : List (Start ρ ε)} {outcome : Outcome ρ Value}

theorem Parser.runs_iff_evaluates :
    parser.Runs library input store starts outcome last ↔
      (parsing library).Evaluates (.more ⟨parser, input⟩) store starts outcome last :=
  Engine.evaluates_iff_watched_run.symm

theorem Store.run_iff_runs :
    (∃ fuel, store.run library fuel parser input = some (outcome, last)) ↔
      ∃ starts, parser.Runs library input store starts outcome last := by
  simp only [Parser.runs_iff_evaluates, ← Engine.run_iff_evaluates, Store.run,
    Option.map_eq_some_iff, Prod.mk.injEq]

theorem Parser.Runs.starts_eq (h : parser.Runs library input store starts outcome last) :
    ∃ rest, starts = ⟨parser, input⟩ :: rest := by
  obtain ⟨rest, hstarts, -⟩ := Engine.evaluates_more_iff.mp (Parser.runs_iff_evaluates.mp h)
  exact ⟨rest, hstarts⟩

/-- A run is determined by where it starts. -/
theorem Parser.Runs.unique {starts' : List (Start ρ ε)} {outcome' : Outcome ρ Value} {last' : Store}
    (h : parser.Runs library input store starts outcome last) :
    parser.Runs library input store starts' outcome' last' ↔
      starts' = starts ∧ outcome' = outcome ∧ last' = last := by
  constructor
  · intro h'
    exact (Parser.runs_iff_evaluates.mp h).unique (Parser.runs_iff_evaluates.mp h')
  · rintro ⟨rfl, rfl, rfl⟩
    exact h

/-- Whatever a run starts is applied at some place of it. -/
theorem Parser.Runs.applies {before after : List (Start ρ ε)} {part : Start ρ ε}
    (h : parser.Runs library input store (before ++ part :: after) outcome last) :
    ∃ path now, parser.Applies library input store before path part now :=
  (Parser.runs_iff_evaluates.mp h).visits

/-- What is remembered after a parse, by how much of the input it has to read. -/
def Extent.close (extent : Extent) (ended : Outcome ρ Value) (store : Store) : Store :=
  match extent, (extent.finish ended).message? with
  | .whole, some message =>
    store.note (.parseAllStopped (Reader.offset (extent.finish ended).remaining) message)
  | _, _ => store

omit [DecidableEq ε] in
theorem Extent.close_built (extent : Extent) (ended : Outcome ρ Value) (store : Store) :
    (extent.close ended store).built = store.built := by
  unfold Extent.close
  split <;> rfl

omit [DecidableEq ε] in
theorem Extent.close_roots (extent : Extent) (ended : Outcome ρ Value) (store : Store) :
    (extent.close ended store).roots = store.roots := by
  unfold Extent.close
  split <;> rfl

omit [DecidableEq ε] in
theorem Extent.close_handles (extent : Extent) (ended : Outcome ρ Value) (store : Store) :
    (extent.close ended store).handles = store.handles := by
  unfold Extent.close
  split <;> rfl

/-- A parse reports how a run ended that began with nothing recorded. -/
theorem Store.parse_runs {fuel : Nat} {extent : Extent} {report : Report ρ}
    (h : store.parse library fuel extent parser input = some (report, last)) :
    ∃ starts ended state, parser.Runs library input store.silence starts ended state ∧
      report.outcome = extent.finish ended ∧ last = extent.close ended state ∧
      report.records = last.records.reverse := by
  obtain ⟨⟨outcome, final⟩, parsed, he⟩ := Option.map_eq_some_iff.mp h
  obtain ⟨rfl, rfl⟩ := Prod.mk.inj he
  cases extent with
  | part =>
    obtain ⟨starts, runs⟩ := Store.run_iff_runs.mp ⟨fuel, parsed⟩
    exact ⟨starts, outcome, final, runs, rfl, rfl, rfl⟩
  | whole =>
    obtain ⟨⟨ended, state⟩, run, he⟩ := Option.map_eq_some_iff.mp parsed
    obtain ⟨starts, runs⟩ := Store.run_iff_runs.mp ⟨fuel, run⟩
    refine ⟨starts, ended, state, runs, ?_⟩
    dsimp only at he
    split at he
    next quiet =>
      obtain ⟨rfl, rfl⟩ := Prod.mk.inj he
      simp [Extent.close, Extent.finish, quiet]
    next message stopped =>
      obtain ⟨rfl, rfl⟩ := Prod.mk.inj he
      simp [Extent.close, Extent.finish, stopped]

theorem Store.parse_last {fuel : Nat} {extent : Extent} {report : Report ρ} {next state : Store}
    {ended : Outcome ρ Value}
    (parsed : store.parse library fuel extent parser input = some (report, next))
    (runs : parser.Runs library input store.silence starts ended state) :
    next = extent.close ended state := by
  obtain ⟨starts', ended', state', runs', -, rfl, -⟩ := Store.parse_runs parsed
  obtain ⟨-, rfl, rfl⟩ := runs.unique.mp runs'
  rfl

end SafeDescent
