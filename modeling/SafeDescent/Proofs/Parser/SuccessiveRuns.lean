import SafeDescent.Proofs.Parser.NestedLeaves
import SafeDescent.Proofs.Parser.YieldRules

namespace SafeDescent

variable {ρ ε : Type}

namespace Parser

variable [Reader ρ ε] [Element ε] [DecidableEq ε]

/-- Parsers run one after the other, each from where the one before it stopped. The first that does
not succeed ends it with its outcome, and those after it are not started; if all succeed, the outcome
has their values. -/
inductive Successive (library : Library ε) : List (Parser ε) → ρ → Store →
    List (List (Start ρ ε)) → Outcome ρ (List Value) → Store → Prop
  | nil (input : ρ) (store : Store) : Successive library [] input store [] (.success [] input) store
  | stopped {parser : Parser ε} {input : ρ} {store last : Store} {starts : List (Start ρ ε)}
      {outcome : Outcome ρ Value} (later : List (Parser ε)) :
      parser.Runs library input store starts outcome last → outcome.isSuccess = false →
        Successive library (parser :: later) input store [starts] (outcome.map fun v => [v]) last
  | next {parser : Parser ε} {later : List (Parser ε)} {input r : ρ} {store middle last : Store}
      {starts : List (Start ρ ε)} {runs : List (List (Start ρ ε))} {value : Value}
      {outcome : Outcome ρ (List Value)} :
      parser.Runs library input store starts (.success value r) middle →
      Successive library later r middle runs outcome last →
        Successive library (parser :: later) input store (starts :: runs) (outcome.map (value :: ·))
          last

section

variable {library : Library ε} {parser : Parser ε} {parsers parsers' : List (Parser ε)} {input r : ρ}
  {store middle last : Store} {starts : List (Start ρ ε)} {runs more : List (List (Start ρ ε))}
  {outcome : Outcome ρ Value} {ended : Outcome ρ (List Value)} {values : List Value}

theorem Runs.successive (h : parser.Runs library input store starts outcome last) :
    Successive library [parser] input store [starts] (outcome.map fun v => [v]) last := by
  cases outcome with
  | success value r => exact .next h (.nil r last)
  | failure message r => exact .stopped [] h rfl
  | error message r => exact .stopped [] h rfl

namespace Successive

theorem cons_success
    (h : Successive library (parser :: parsers) input store runs (.success values r) last) :
    ∃ starts value r' middle more rest, runs = starts :: more ∧ values = value :: rest ∧
      parser.Runs library input store starts (.success value r') middle ∧
      Successive library parsers r' middle more (.success rest r) last := by
  generalize succeeded : Outcome.success values r = ended at h
  cases h with
  | @stopped _ _ _ _ _ outcome _ _ halted =>
    cases outcome with
    | success => cases halted
    | failure | error => cases succeeded
  | @next _ _ _ _ _ _ _ _ _ _ outcome run later =>
    cases outcome with
    | success rest r' =>
      cases succeeded
      exact ⟨_, _, _, _, _, rest, rfl, rfl, run, later⟩
    | failure | error => cases succeeded

theorem length_eq (h : Successive library parsers input store runs (.success values r) last) :
    values.length = parsers.length := by
  induction parsers generalizing input store runs values with
  | nil =>
    cases h
    rfl
  | cons parser parsers ih =>
    obtain ⟨starts, value, r', middle, more, rest, rfl, rfl, -, later⟩ := h.cons_success
    rw [List.length_cons, List.length_cons, ih later]

theorem append_of_stopped (h : Successive library parsers input store runs ended last)
    (stopped : ended.isSuccess = false) (later : List (Parser ε)) :
    Successive library (parsers ++ later) input store runs ended last := by
  induction h with
  | nil => cases stopped
  | stopped _ run halted => exact .stopped _ run halted
  | next run _ ih =>
    rw [Outcome.isSuccess_map] at stopped
    exact .next run (ih stopped)

theorem append (h : Successive library parsers input store runs (.success values r) middle)
    (h' : Successive library parsers' r middle more ended last) :
    Successive library (parsers ++ parsers') input store (runs ++ more) (ended.map (values ++ ·))
      last := by
  induction parsers generalizing input store runs values with
  | nil =>
    cases h
    have same : ended.map ([] ++ ·) = ended := Outcome.map_eq_self fun _ _ _ => rfl
    rwa [same]
  | cons parser parsers ih =>
    obtain ⟨starts, value, r', middle', before, rest, rfl, rfl, run, later⟩ := h.cons_success
    have whole := Successive.next run (ih later)
    rwa [Outcome.map_map] at whole

/-- Where parsers run one after the other, the first of them do, and if they all succeed, the others
do after them. -/
theorem split (h : Successive library (parsers ++ parsers') input store runs ended last) :
    (Successive library parsers input store runs ended last ∧ ended.isSuccess = false) ∨
      ∃ before after values r middle rest, runs = before ++ after ∧
        ended = rest.map (values ++ ·) ∧
        Successive library parsers input store before (.success values r) middle ∧
        Successive library parsers' r middle after rest last := by
  induction parsers generalizing input store runs ended with
  | nil =>
    have same : ended = ended.map ([] ++ ·) := (Outcome.map_eq_self fun _ _ _ => rfl).symm
    exact .inr ⟨[], runs, [], input, store, ended, rfl, same, .nil .., h⟩
  | cons parser parsers ih =>
    cases h with
    | stopped _ run halted => exact .inl ⟨.stopped _ run halted, by simpa using halted⟩
    | next run later =>
      obtain ⟨before, halted⟩ | ⟨before, after, values, r, middle, rest, rfl, rfl, hbefore, hafter⟩ :=
        ih later
      · exact .inl ⟨.next run before, by simpa using halted⟩
      · exact .inr ⟨_ :: before, after, _ :: values, r, middle, rest, rfl, by simp, .next run hbefore,
          hafter⟩

/-- Such a course is determined by where it starts. -/
theorem unique {runs' : List (List (Start ρ ε))} {ended' : Outcome ρ (List Value)} {last' : Store}
    (h : Successive library parsers input store runs ended last)
    (h' : Successive library parsers input store runs' ended' last') :
    runs' = runs ∧ ended' = ended ∧ last' = last := by
  induction h generalizing runs' ended' last' with
  | nil =>
    cases h'
    exact ⟨rfl, rfl, rfl⟩
  | stopped _ run halted =>
    cases h' with
    | stopped _ run' _ =>
      obtain ⟨rfl, rfl, rfl⟩ := run.unique.mp run'
      exact ⟨rfl, rfl, rfl⟩
    | next run' _ =>
      obtain ⟨-, rfl, -⟩ := run.unique.mp run'
      cases halted
  | next run _ ih =>
    cases h' with
    | stopped _ run' halted =>
      obtain ⟨-, rfl, -⟩ := run.unique.mp run'
      cases halted
    | next run' later =>
      obtain ⟨rfl, same, rfl⟩ := run.unique.mp run'
      cases same
      obtain ⟨rfl, rfl, rfl⟩ := ih later
      exact ⟨rfl, rfl, rfl⟩

/-- Parsers that are alike take the same course, whatever was built before. -/
theorem alike (h : Successive library parsers input store runs ended last)
    (same : List.Forall₂ (Alike fun _ => True) parsers parsers') (store' : Store) :
    ∃ runs' last', Successive library parsers' input store' runs' ended last' := by
  induction h generalizing parsers' store' with
  | nil input store =>
    cases same
    exact ⟨[], store', .nil input store'⟩
  | stopped later run halted =>
    cases same with
    | cons like _ =>
      obtain ⟨starts', last', run'⟩ := run.alike like store'
      exact ⟨[starts'], last', .stopped _ run' halted⟩
  | next run _ ih =>
    cases same with
    | cons like likes =>
      obtain ⟨starts', middle', run'⟩ := run.alike like store'
      obtain ⟨runs', last', later⟩ := ih likes middle'
      exact ⟨starts' :: runs', last', .next run' later⟩

/-- Each of the values is one that its parser yields. -/
theorem forall₂_yields (h : Successive library parsers input store runs (.success values r) last) :
    List.Forall₂ (fun parser value => ∃ input r : ρ,
      parser.Yields library input (.success value r)) parsers values := by
  induction parsers generalizing input store runs values with
  | nil =>
    cases h
    exact .nil
  | cons parser parsers ih =>
    obtain ⟨starts, value, r', middle, more, rest, rfl, rfl, run, later⟩ := h.cons_success
    exact .cons ⟨input, r', run.yields⟩ (ih later)

end Successive

end

end Parser

end SafeDescent
