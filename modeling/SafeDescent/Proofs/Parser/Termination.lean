import SafeDescent.Parser.Text
import SafeDescent.Proofs.Parser.EndingParts
import SafeDescent.Reader.Text

namespace SafeDescent

open Reader

variable {ρ ε : Type} [Reader ρ ε] [Element ε] [DecidableEq ε]

/-- A parser without recursion is guarded. A guarded parser ends, on inputs that end and on which
offsets grow, and a repetition that succeeds there collects no more values than its minimum, or one
if that is none, and the elements ahead. -/
theorem Store.parse_ends {library : Library ε} (finite : library.Finite) :
    (∀ parser : Parser ε, parser.WithoutRecursion library →
      parser.Guarded library (Parser.Consumes ρ library)) ∧
    (∀ (parser : Parser ε) (input : ρ) (n : Nat),
      parser.Guarded library (Parser.Consumes ρ library) → Strict input → HoldsOnly n input →
        ∀ (store : Store) (extent : Extent), ∃ fuel report store',
          store.parse library fuel extent parser input = some (report, store')) ∧
    ∀ (bounds : Bounds) (body : Parser ε) (input stopped : ρ) (n fuel : Nat) (store last : Store)
      (value : Value), Strict input → HoldsOnly n input →
        store.run library fuel (.many bounds body) input = some (.success value stopped, last) →
          ∃ items, value = .list items ∧ items.length ≤ max bounds.min 1 + n := by
  refine ⟨fun parser => Parser.guarded_of_withoutRecursion, ?_, ?_⟩
  · intro parser input n guarded strict only store extent
    obtain ⟨starts, outcome, last, evaluates⟩ :=
      guarded.endsWithin finite n n (Nat.le_refl n) input strict only store.silence
    obtain ⟨fuel, run⟩ := Store.run_iff_runs.mpr ⟨starts, Parser.runs_iff_evaluates.mpr evaluates⟩
    have reported := store.map_outcome_parse library fuel extent parser input
    rw [run] at reported
    obtain ⟨⟨report, store'⟩, parsed, -⟩ := Option.map_eq_some_iff.mp reported
    exact ⟨fuel, report, store', parsed⟩
  · intro bounds body input stopped n fuel store last value strict only run
    obtain ⟨starts, runs⟩ := Store.run_iff_runs.mp ⟨fuel, run⟩
    obtain ⟨rest, -, rounds⟩ := Engine.evaluates_more_iff.mp (Parser.runs_iff_evaluates.mp runs)
    obtain ⟨items, rfl, bound⟩ := evaluates_round_length strict only rounds
    refine ⟨items, rfl, ?_⟩
    rw [Array.size_empty] at bound
    omega

namespace Parser

/-- What stands in parentheses, where the whole may be empty. -/
def nestBody : Parser Char :=
  .optional (.seq (.character '(') (.seq (.reference (.binder "nest")) (.character ')')))

/-- Parentheses around parentheses, or nothing. -/
def nest : Parser Char := .fixpoint ⟨[0], true, none⟩ "nest" nestBody

def nestHandle : Parser Char := .handle ⟨[0], true, none⟩ "nest" nestBody

def nestTail : Parser Char := .seq nestHandle (.character ')')

/-- What `nest` exposes. -/
def nestFront : List (Parser Char) :=
  [.optional (.seq (.character '(') nestTail), .seq (.character '(') nestTail, .character '(']

theorem nest_unfold :
    unfold ⟨[0], true, none⟩ "nest" nestBody = .optional (.seq (.character '(') nestTail) := rfl

variable {guard : Option (Parser Char)} {other : Parser Char}

theorem nestFront_exposes {parser : Parser Char} (front : parser = nest ∨ parser ∈ nestFront)
    (h : Exposes (fun _ => none) (Consumes TextReader fun _ => none) parser other) :
    other ∈ nestFront := by
  obtain ⟨guard, part, passes⟩ := h
  simp only [nestFront, List.mem_cons, List.not_mem_nil, or_false] at front
  rcases front with rfl | rfl | rfl | rfl
  · cases part
    simp [nestFront, nest_unfold]
  · cases part
    simp [nestFront]
  · cases part with
    | first => simp [nestFront]
    | second => exact absurd (consumes_satisfy _ _) (passes _ rfl)
  · cases part

theorem nest_exposed (h : Relation.TransGen
      (Exposes (fun _ => none) (Consumes TextReader fun _ => none)) nest other) :
    other ∈ nestFront := by
  induction h with
  | single exposes => exact nestFront_exposes (.inl rfl) exposes
  | tail _ exposes ih => exact nestFront_exposes (.inr ih) exposes

theorem nest_comprises (h : Comprises (fun _ => none) (repeated 2 none nest) other) :
    other ∈ repeated 2 none nest :: nest :: nestTail :: nestHandle :: .character ')' :: nestFront := by
  induction h with
  | refl => exact List.mem_cons_self
  | tail _ step ih =>
    obtain ⟨guard, part⟩ := step
    simp only [nestFront, List.mem_cons, List.not_mem_nil, or_false] at ih
    rcases ih with rfl | rfl | rfl | rfl | rfl | rfl | rfl | rfl <;> cases part <;>
      simp [nest, nestFront, nest_unfold]

theorem nest_guarded :
    (repeated 2 none nest).Guarded (fun _ => none) (Consumes TextReader fun _ => none) := by
  intro definition use comprises uses exposed
  have inside := nest_comprises comprises
  simp only [nestFront, List.mem_cons, List.not_mem_nil, or_false] at inside
  rcases inside with rfl | rfl | rfl | rfl | rfl | rfl | rfl | rfl <;> cases uses
  have front : nest ∈ nestFront := nest_exposed exposed
  simp only [nestFront, List.mem_cons, List.not_mem_nil, or_false] at front
  rcases front with he | he | he <;> cases he

end Parser

/-- Two nests are asked for, and the second one is empty. -/
theorem parse_ends_nest :
    (Parser.character '(').Guarded (fun _ => none) (Parser.Consumes TextReader fun _ => none) ∧
    (∃ fuel report store', ({} : Store).parse (fun _ => none) fuel .whole
        (.repeated 2 none .nest) (TextReader.ofString "(())") = some (report, store')) ∧
    ∃ fuel value stopped last items, ({} : Store).run (fun _ => none) fuel
        (.repeated 2 none .nest) (TextReader.ofString "(())") = some (.success value stopped, last) ∧
      value = .list items ∧ items.length ≤ max 2 1 + 4 := by
  have finite : Library.Finite (fun _ => none : Library Char) :=
    ⟨∅, fun _ known => by cases known⟩
  have strict := strict_of_lawful (TextReader.ofString "(())")
  have only : HoldsOnly 4 (TextReader.ofString "(())") :=
    holdsOnly_length (TextReader.ofString "(())")
  have plain : (Parser.character '(').WithoutRecursion fun _ => none := by
    intro definition use comprises uses
    rcases comprises.cases_head with rfl | ⟨other, ⟨guard, part⟩, -⟩
    · cases uses
    · cases part
  obtain ⟨value, stopped, last, run⟩ : ∃ value stopped last, ({} : Store).run (fun _ => none) 80
      (.repeated 2 none .nest) (TextReader.ofString "(())") = some (.success value stopped, last) :=
    ⟨_, _, _, rfl⟩
  obtain ⟨guarded, ends, repeats⟩ := @Store.parse_ends TextReader Char _ _ _ _ finite
  obtain ⟨items, he, bound⟩ := repeats _ _ _ _ 4 _ _ _ _ strict only run
  exact ⟨guarded _ plain, ends _ _ 4 Parser.nest_guarded strict only {} .whole,
    80, value, stopped, last, items, run, he, bound⟩

end SafeDescent
