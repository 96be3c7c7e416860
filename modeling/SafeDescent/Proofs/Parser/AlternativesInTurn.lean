import SafeDescent.Parser.Combinators
import SafeDescent.Proofs.Parser.FurthestFailures
import SafeDescent.Proofs.Parser.Runs

namespace SafeDescent

variable {ρ ε : Type} [Reader ρ ε]

namespace Parser

variable [Element ε] [DecidableEq ε]

/-- Parsers run one after the other, each from the same position. -/
inductive InTurn (library : Library ε) (input : ρ) :
    List (Parser ε) → Store → List (List (Start ρ ε)) → List (Outcome ρ Value) → Store → Prop
  | nil (store : Store) : InTurn library input [] store [] [] store
  | snoc {parsers : List (Parser ε)} {parser : Parser ε} {store middle last : Store}
      {runs : List (List (Start ρ ε))} {starts : List (Start ρ ε)}
      {outcomes : List (Outcome ρ Value)} {outcome : Outcome ρ Value} :
      InTurn library input parsers store runs outcomes middle →
      parser.Runs library input middle starts outcome last →
        InTurn library input (parsers ++ [parser]) store (runs ++ [starts]) (outcomes ++ [outcome])
          last

omit [Element ε] [DecidableEq ε] in
/-- The choices that a chain of alternatives consists of, the outermost first. -/
def choices (first : Parser ε) (more : List (Parser ε)) : List (Parser ε) :=
  (List.range more.length).reverse.map fun i => oneOf first (more.take (i + 1))

omit [Reader ρ ε] [Element ε] [DecidableEq ε] in
theorem oneOf_append_singleton (first parser : Parser ε) (more : List (Parser ε)) :
    oneOf first (more ++ [parser]) = .choice (oneOf first more) parser := by
  simp [oneOf]

omit [Reader ρ ε] [Element ε] [DecidableEq ε] in
theorem choices_append_singleton (first parser : Parser ε) (more : List (Parser ε)) :
    choices first (more ++ [parser]) =
      .choice (oneOf first more) parser :: choices first more := by
  have earlier : (List.range more.length).reverse.map
      (fun i => oneOf first ((more ++ [parser]).take (i + 1))) = choices first more := by
    apply List.map_congr_left
    intro i hi
    have bound : i < more.length := by simpa using hi
    rw [List.take_append_of_le_length bound]
  rw [choices, List.length_append, List.length_singleton, List.range_succ, List.reverse_append,
    List.reverse_singleton, List.singleton_append, List.map_cons, earlier,
    List.take_of_length_le (by simp), oneOf_append_singleton]

/-- A search among alternatives. Some of them run, in order and each from the same position; the
others are not started. The search ends with the first outcome that settles it, or, when all
alternatives have run, with the first of the furthest failures. -/
def Searched (library : Library ε) (alternatives : List (Parser ε)) (input : ρ) (store : Store)
    (runs : List (List (Start ρ ε))) (outcome : Outcome ρ Value) (last : Store) : Prop :=
  ∃ tried untried outcomes, alternatives = tried ++ untried ∧
    InTurn library input tried store runs outcomes last ∧
    Outcome.Answers outcomes (untried = []) outcome

variable {library : Library ε} {input : ρ} {store last : Store} {runs : List (List (Start ρ ε))}
  {outcomes : List (Outcome ρ Value)} {outcome : Outcome ρ Value} {parser : Parser ε}
  {parsers : List (Parser ε)}

theorem inTurn_append_singleton :
    InTurn library input (parsers ++ [parser]) store runs outcomes last ↔
      ∃ before starts earlier outcome middle, runs = before ++ [starts] ∧
        outcomes = earlier ++ [outcome] ∧ InTurn library input parsers store before earlier middle ∧
        parser.Runs library input middle starts outcome last := by
  constructor
  · intro h
    generalize he : parsers ++ [parser] = all at h
    cases h with
    | nil => simp at he
    | snoc h run =>
      obtain ⟨rfl, hp⟩ := List.append_inj' he rfl
      obtain rfl := List.singleton_injective hp
      exact ⟨_, _, _, _, _, rfl, rfl, h, run⟩
  · intro h
    obtain ⟨before, starts, earlier, outcome, middle, rfl, rfl, turn, run⟩ := h
    exact .snoc turn run

theorem inTurn_nil :
    InTurn library input [] store runs outcomes last ↔ runs = [] ∧ outcomes = [] ∧ last = store := by
  constructor
  · intro h
    generalize he : ([] : List (Parser ε)) = all at h
    cases h with
    | nil => exact ⟨rfl, rfl, rfl⟩
    | snoc h run => simp at he
  · intro h
    obtain ⟨rfl, rfl, rfl⟩ := h
    exact .nil _

theorem InTurn.length_eq (h : InTurn library input parsers store runs outcomes last) :
    outcomes.length = parsers.length := by
  induction h with
  | nil store => rfl
  | snoc _ _ ih => simp [ih]

theorem InTurn.ne_nil (h : InTurn library input parsers store runs outcomes last)
    (ne : parsers ≠ []) : outcomes ≠ [] := by
  have lengths := h.length_eq
  have pos := List.length_pos_iff.mpr ne
  exact List.length_pos_iff.mp (by omega)

theorem InTurn.starts_with (h : InTurn library input parsers store runs outcomes last) :
    runs.map List.head? = parsers.map fun parser => some ⟨parser, input⟩ := by
  induction h with
  | nil store => rfl
  | snoc _ run ih =>
    obtain ⟨rest, rfl⟩ := run.starts_eq
    simp [ih]

end Parser

end SafeDescent
