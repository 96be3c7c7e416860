import SafeDescent.Proofs.Parser.AlternativesInTurn
import SafeDescent.Proofs.Parser.RunRules

namespace SafeDescent

variable {ρ ε : Type} [Reader ρ ε]

namespace Parser

variable [Element ε] [DecidableEq ε]

variable {library : Library ε} {input : ρ} {store last : Store} {runs : List (List (Start ρ ε))}
  {outcomes : List (Outcome ρ Value)} {outcome : Outcome ρ Value} {parser : Parser ε}
  {parsers : List (Parser ε)}

/-- The only alternative runs, and its outcome is the answer. -/
theorem searched_singleton :
    Searched library [parser] input store runs outcome last ↔
      ∃ starts, parser.Runs library input store starts outcome last ∧ runs = [starts] := by
  constructor
  · intro h
    obtain ⟨tried, untried, outcomes, halts, turn, answer⟩ := h
    rcases List.append_eq_singleton_iff.mp halts.symm with ⟨rfl, rfl⟩ | ⟨rfl, rfl⟩
    · obtain ⟨rfl, rfl, rfl⟩ := inTurn_nil.mp turn
      rcases answer with ⟨earlier, he, -⟩ | ⟨he, -⟩
      · simp at he
      · simp at he
    · rw [← List.nil_append [parser], inTurn_append_singleton] at turn
      obtain ⟨before, starts, earlier, other, middle, rfl, rfl, turn, run⟩ := turn
      obtain ⟨rfl, rfl, rfl⟩ := inTurn_nil.mp turn
      obtain rfl := (Outcome.answers_singleton rfl).mp answer
      exact ⟨starts, run, rfl⟩
  · intro h
    obtain ⟨starts, run, rfl⟩ := h
    exact ⟨[parser], [], [outcome], rfl, .snoc (.nil store) run,
      (Outcome.answers_singleton rfl).mpr rfl⟩

/-- One more alternative at the end is started only after a failure of the others, and the two are
compared. -/
theorem searched_append_singleton (ne : parsers ≠ []) :
    Searched library (parsers ++ [parser]) input store runs outcome last ↔
      (Searched library parsers input store runs outcome last ∧
        ∀ message stopped, outcome ≠ .failure message stopped) ∨
      ∃ before message stopped middle starts other,
        Searched library parsers input store before (.failure message stopped) middle ∧
        parser.Runs library input middle starts other last ∧
        outcome = other.furthest message stopped ∧ runs = before ++ [starts] := by
  constructor
  · intro h
    obtain ⟨tried, untried, outcomes, halts, turn, answer⟩ := h
    rcases List.eq_nil_or_concat untried with rfl | ⟨untried, final, rfl⟩
    · -- The last alternative was tried, so those before it had left a failure.
      rw [List.append_nil] at halts
      subst halts
      obtain ⟨before, starts, earlier, other, middle, rfl, rfl, turn, run⟩ :=
        inTurn_append_singleton.mp turn
      obtain ⟨unsettled, message, stopped, furthest, rfl⟩ :=
        (Outcome.answers_append_singleton rfl (turn.ne_nil ne)).mp answer
      have kept : Searched library parsers input store before (.failure message stopped) middle :=
        ⟨parsers, [], earlier, by simp, turn,
          Outcome.answers_failure_iff.mpr ⟨rfl, unsettled, furthest⟩⟩
      exact .inr ⟨before, message, stopped, middle, starts, other, kept, run, rfl, rfl⟩
    · -- The last alternative was not tried, so the search was settled before it.
      rw [List.concat_eq_append, ← List.append_assoc] at halts
      obtain ⟨rfl, -⟩ := List.append_inj' halts rfl
      have settled : ∀ message stopped, outcome ≠ .failure message stopped := by
        intro message stopped he
        subst he
        simpa using (Outcome.answers_failure_iff.mp answer).1
      exact .inl ⟨⟨tried, untried, outcomes, rfl, turn,
        (Outcome.answers_of_ne_failure settled).mp answer⟩, settled⟩
  · intro h
    rcases h with ⟨⟨tried, untried, outcomes, rfl, turn, answer⟩, settled⟩ |
      ⟨before, message, stopped, middle, starts, other,
        ⟨tried, untried, outcomes, rfl, turn, kept⟩, run, rfl, rfl⟩
    · exact ⟨tried, untried ++ [parser], outcomes, by simp, turn,
        (Outcome.answers_of_ne_failure settled).mp answer⟩
    · obtain ⟨rfl, unsettled, furthest⟩ := Outcome.answers_failure_iff.mp kept
      have some : outcomes ≠ [] := List.ne_nil_of_mem furthest.mem
      exact ⟨tried ++ [parser], [], outcomes ++ [other], by simp, .snoc turn run,
        (Outcome.answers_append_singleton rfl some).mpr
          ⟨unsettled, message, stopped, furthest, rfl⟩⟩

/-- A chain of alternatives runs as the search among them, below the choices it consists of. -/
theorem runs_oneOf_iff_searched {first : Parser ε} {more : List (Parser ε)}
    {starts : List (Start ρ ε)} :
    (oneOf first more).Runs library input store starts outcome last ↔
      ∃ runs, Searched library (first :: more) input store runs outcome last ∧
        starts = (choices first more).map (⟨·, input⟩) ++ runs.flatten := by
  induction more using List.reverseRecOn generalizing store starts outcome last with
  | nil =>
    simp only [searched_singleton]
    constructor
    · intro run
      exact ⟨[starts], ⟨starts, run, rfl⟩, by simp [choices]⟩
    · intro h
      obtain ⟨_, ⟨starts, run, rfl⟩, rfl⟩ := h
      simpa [choices, oneOf] using run
  | append_singleton more parser ih =>
    rw [oneOf_append_singleton, runs_choice_iff, choices_append_singleton, ← List.cons_append]
    simp only [searched_append_singleton (List.cons_ne_nil first more), ih]
    constructor
    · intro h
      obtain ⟨_, head, middle, ⟨runs, searched, rfl⟩, ⟨settled, rfl, rfl, rfl⟩ |
        ⟨message, stopped, starts, other, rfl, run, rfl, rfl⟩⟩ := h
      · exact ⟨runs, .inl ⟨searched, settled⟩, by simp⟩
      · exact ⟨runs ++ [starts], .inr ⟨runs, message, stopped, middle, starts, other, searched, run,
          rfl, rfl⟩, by simp⟩
    · intro h
      obtain ⟨runs, ⟨searched, settled⟩ |
        ⟨before, message, stopped, middle, starts, other, searched, run, rfl, rfl⟩, rfl⟩ := h
      · exact ⟨_, outcome, last, ⟨runs, searched, rfl⟩, .inl ⟨settled, rfl, rfl, by simp⟩⟩
      · exact ⟨_, _, middle, ⟨before, searched, rfl⟩,
          .inr ⟨message, stopped, starts, other, rfl, run, rfl, by simp⟩⟩

theorem Searched.starts_with {alternatives : List (Parser ε)}
    (h : Searched library alternatives input store runs outcome last) :
    ∃ tried untried, alternatives = tried ++ untried ∧
      runs.map List.head? = tried.map fun parser => some ⟨parser, input⟩ := by
  obtain ⟨tried, untried, outcomes, halts, turn, -⟩ := h
  exact ⟨tried, untried, halts, turn.starts_with⟩

/-- A chain of alternatives is a search among them. The alternatives it starts are the first ones,
in order, each once and from the position of the chain, and nothing but what they start runs below
the choices that the chain consists of. -/
theorem oneOf_runs_iff {first : Parser ε} {more : List (Parser ε)} {starts : List (Start ρ ε)} :
    (oneOf first more).Runs library input store starts outcome last ↔
      ∃ runs, Searched library (first :: more) input store runs outcome last ∧
        starts = (choices first more).map (⟨·, input⟩) ++ runs.flatten ∧
        ∃ tried untried, first :: more = tried ++ untried ∧
          runs.map List.head? = tried.map fun parser => some ⟨parser, input⟩ := by
  rw [runs_oneOf_iff_searched]
  constructor
  · intro h
    obtain ⟨runs, searched, hstarts⟩ := h
    exact ⟨runs, searched, hstarts, searched.starts_with⟩
  · intro h
    obtain ⟨runs, searched, hstarts, -⟩ := h
    exact ⟨runs, searched, hstarts⟩

end Parser

end SafeDescent
