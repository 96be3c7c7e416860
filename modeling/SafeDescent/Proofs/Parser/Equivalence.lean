import SafeDescent.Proofs.Parser.Runs

namespace SafeDescent

variable {ρ ε : Type} [Reader ρ ε] [Element ε] [DecidableEq ε]

/-- A parse ends with the outcome. -/
def Store.Answers (store : Store) (library : Library ε) (extent : Extent) (parser : Parser ε)
    (input : ρ) (outcome : Outcome ρ Value) : Prop :=
  ∃ fuel report last, store.parse library fuel extent parser input = some (report, last) ∧
    report.outcome = outcome

theorem Store.answers_iff_runs {store : Store} {library : Library ε} {extent : Extent}
    {parser : Parser ε} {input : ρ} {outcome : Outcome ρ Value} :
    store.Answers library extent parser input outcome ↔
      ∃ starts ended last, parser.Runs library input store.silence starts ended last ∧
        extent.finish ended = outcome := by
  have reported (fuel : Nat) := store.map_outcome_parse library fuel extent parser input
  constructor
  · rintro ⟨fuel, report, last, parsed, rfl⟩
    have finished := reported fuel
    rw [parsed] at finished
    obtain ⟨⟨ended, state⟩, run, finish⟩ := Option.map_eq_some_iff.mp finished.symm
    obtain ⟨starts, runs⟩ := Store.run_iff_runs.mp ⟨fuel, run⟩
    exact ⟨starts, ended, state, runs, finish⟩
  · rintro ⟨starts, ended, last, runs, rfl⟩
    obtain ⟨fuel, run⟩ := Store.run_iff_runs.mpr ⟨starts, runs⟩
    have finished := reported fuel
    rw [run] at finished
    obtain ⟨⟨report, state⟩, parsed, outcome⟩ := Option.map_eq_some_iff.mp finished
    exact ⟨fuel, report, state, parsed, outcome⟩

theorem Store.Answers.unique {store : Store} {library : Library ε} {extent : Extent}
    {parser : Parser ε} {input : ρ} {outcome outcome' : Outcome ρ Value}
    (h : store.Answers library extent parser input outcome)
    (h' : store.Answers library extent parser input outcome') : outcome = outcome' := by
  obtain ⟨starts, ended, last, runs, rfl⟩ := Store.answers_iff_runs.mp h
  obtain ⟨starts', ended', last', runs', rfl⟩ := Store.answers_iff_runs.mp h'
  obtain ⟨-, rfl, -⟩ := runs.unique.mp runs'
  rfl

/-- From a position the two parsers answer alike: a parse with the one ends if and only if a parse
with the other one does, and the two have the same outcome. -/
def Parser.Agree (library : Library ε) (parser parser' : Parser ε) (input : ρ) : Prop :=
  ∀ (extent : Extent) (store store' : Store) (outcome : Outcome ρ Value),
    store.Answers library extent parser input outcome ↔
      store'.Answers library extent parser' input outcome

/-- Two parsers that answer alike: from every position of every reader, and whatever was built
before, a parse with the one ends if and only if a parse with the other one does, and the two have
the same outcome. -/
def Parser.Equivalent (library : Library ε) (parser parser' : Parser ε) : Prop :=
  ∀ (ρ : Type) [Reader ρ ε] (input : ρ) (extent : Extent) (store store' : Store)
    (outcome : Outcome ρ Value), store.Answers library extent parser input outcome ↔
      store'.Answers library extent parser' input outcome

namespace Parser.Equivalent

variable {library : Library ε} {first second third : Parser ε}

theorem symm (h : first.Equivalent library second) : second.Equivalent library first :=
  fun ρ _ input extent store store' outcome => (h ρ input extent store' store outcome).symm

theorem trans (h : first.Equivalent library second) (h' : second.Equivalent library third) :
    first.Equivalent library third :=
  fun ρ _ input extent store store' outcome =>
    (h ρ input extent store store outcome).trans (h' ρ input extent store store' outcome)

/-- Parsers are equivalent if their runs end alike. -/
theorem of_runs (h : ∀ (ρ : Type) [Reader ρ ε] (input : ρ) (store store' : Store)
    (outcome : Outcome ρ Value),
      (∃ starts last, first.Runs library input store starts outcome last) ↔
        ∃ starts last, second.Runs library input store' starts outcome last) :
    first.Equivalent library second := by
  intro ρ _ input extent store store' outcome
  have alike (ended : Outcome ρ Value) := h ρ input store.silence store'.silence ended
  rw [Store.answers_iff_runs, Store.answers_iff_runs]
  constructor
  · rintro ⟨starts, ended, last, runs, finish⟩
    obtain ⟨starts', last', runs'⟩ := (alike ended).mp ⟨starts, last, runs⟩
    exact ⟨starts', ended, last', runs', finish⟩
  · rintro ⟨starts', ended, last', runs', finish⟩
    obtain ⟨starts, last, runs⟩ := (alike ended).mpr ⟨starts', last', runs'⟩
    exact ⟨starts, ended, last, runs, finish⟩

end Parser.Equivalent

end SafeDescent
