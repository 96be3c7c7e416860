import SafeDescent.Parser.Combinators
import SafeDescent.Proofs.Parser.AccumulatedPieces
import SafeDescent.Proofs.Parser.Nesting

namespace SafeDescent

variable {ρ ε : Type}

namespace Parser

/-- A tree of sequences that accumulate into a collection of the shape, with its leaves from left to
right. -/
inductive Gathers (shape : Shape) : Parser ε → List (Piece ε) → Prop
  | sequence (parser : Parser ε) : Gathers shape parser [.sequence parser]
  | collect (first second : Parser ε) :
      Gathers shape (.collect shape first second) [.element first, .element second]
  | append {front : Parser ε} {pieces : List (Piece ε)} (last : Parser ε) :
      Gathers shape front pieces →
        Gathers shape (.append shape front last) (pieces ++ [.element last])
  | prepend {back : Parser ε} {pieces : List (Piece ε)} (first : Parser ε) :
      Gathers shape back pieces →
        Gathers shape (.prepend shape first back) (.element first :: pieces)
  | concat {front back : Parser ε} {pieces pieces' : List (Piece ε)} :
      Gathers shape front pieces → Gathers shape back pieces' →
        Gathers shape (.concat shape front back) (pieces ++ pieces')

/-- A tree of sequences that accumulate into a mixed sequence, with its leaves from left to right. A
leaf that is no mixed sequence itself is stored at a type. -/
inductive GathersMixed : Parser ε → List (Leaf ε (Entry Value)) → Prop
  | sequence (parser : Parser ε) : GathersMixed parser [(parser, Value.entries)]
  | append {front : Parser ε} {leaves : List (Leaf ε (Entry Value))} (as : Stored)
      (last : Parser ε) : GathersMixed front leaves →
        GathersMixed (.appendMixed front as last) (leaves ++ [(last, fun v => [v.store as])])
  | prepend {back : Parser ε} {leaves : List (Leaf ε (Entry Value))} (as : Stored)
      (first : Parser ε) : GathersMixed back leaves →
        GathersMixed (.prependMixed as first back) ((first, fun v => [v.store as]) :: leaves)
  | concat {front back : Parser ε} {leaves leaves' : List (Leaf ε (Entry Value))} :
      GathersMixed front leaves → GathersMixed back leaves' →
        GathersMixed (.concatMixed front back) (leaves ++ leaves')

variable {shape shape' : Shape} {parser parser' : Parser ε} {pieces : List (Piece ε)}
  {leaves : List (Leaf ε (Entry Value))}

theorem Gathers.nested (h : Gathers shape parser pieces) :
    Nested parser (pieces.map (Piece.leaf shape)) shape.elements := by
  induction h with
  | sequence parser => exact .leaf parser shape.elements
  | collect first second =>
    exact .sequence (.leaf first shape.single) (.leaf second shape.single) shape.elements_collect
  | append last _ ih =>
    rw [List.map_append]
    exact .sequence ih (.leaf last shape.single) shape.elements_append
  | prepend first _ ih => exact .sequence (.leaf first shape.single) ih shape.elements_prepend
  | concat _ _ ih ih' =>
    rw [List.map_append]
    exact .sequence ih ih' shape.elements_concat

theorem GathersMixed.nested (h : GathersMixed parser leaves) : Nested parser leaves Value.entries := by
  induction h with
  | sequence parser => exact .leaf parser Value.entries
  | append as last _ ih => exact .sequence ih (.leaf last _) fun _ _ => rfl
  | prepend as first _ ih => exact .sequence (.leaf first _) ih fun _ _ => rfl
  | concat _ _ ih ih' => exact .sequence ih ih' fun _ _ => rfl

theorem Gathers.combines (h : Gathers shape parser pieces) (several : 1 < pieces.length) :
    ∃ combine first second, parser = .sequence combine first second ∧
      ∀ a b, shape.Holds (combine a b) := by
  cases h with
  | sequence => simp at several
  | collect => exact ⟨_, _, _, rfl, fun _ _ => shape.holds_value _⟩
  | append => exact ⟨_, _, _, rfl, fun _ _ => shape.holds_value _⟩
  | prepend => exact ⟨_, _, _, rfl, fun _ _ => shape.holds_value _⟩
  | concat => exact ⟨_, _, _, rfl, fun _ _ => shape.holds_value _⟩

theorem GathersMixed.combines (h : GathersMixed parser leaves) (several : 1 < leaves.length) :
    ∃ combine first second, parser = .sequence combine first second ∧
      ∀ a b, .mixed (combine a b).entries = combine a b := by
  cases h with
  | sequence => simp at several
  | append | prepend | concat => exact ⟨_, _, _, rfl, fun _ _ => rfl⟩

variable [Reader ρ ε] [Element ε] [DecidableEq ε] {library : Library ε} {input r : ρ} {value : Value}
  {outcome : Outcome ρ Value}

theorem Yields.of_sequence {combine : Value → Value → Value} {first second : Parser ε}
    (h : (Parser.sequence combine first second).Yields library input (.success value r)) :
    ∃ a b, value = combine a b := by
  obtain ⟨head, -, ⟨stopped, rfl⟩ | ⟨a, r', other, -, -, he⟩⟩ := yields_sequence_iff.mp h
  · cases stopped
  · cases other with
    | success b r'' =>
      obtain ⟨rfl, -⟩ := Outcome.success.inj he
      exact ⟨a, b, rfl⟩
    | failure | error => cases he

theorem Yields.map_eq_self {combine : Value → Value → Value} {first second : Parser ε}
    {f : Value → Value} (h : (Parser.sequence combine first second).Yields library input outcome)
    (fixed : ∀ a b, f (combine a b) = combine a b) : outcome.map f = outcome := by
  refine Outcome.map_eq_self fun value r succeeded => ?_
  rw [succeeded] at h
  obtain ⟨a, b, rfl⟩ := h.of_sequence
  exact fixed a b

/-- The leaf yields only what consists of characters. -/
def Piece.Lettered (library : Library ε) (piece : Piece ε) : Prop :=
  ∀ (kept : Bool) (path : List Nat) (ρ : Type) [Reader ρ ε] (input r : ρ) (value : Value),
    (piece.parser.place kept path).Yields library input (.success value r) → piece.Spells value

/-- Trees with the same leaves end alike and with the same elements, however they are bracketed and
whatever they accumulate into. -/
theorem Gathers.yields (h : Gathers shape parser pieces) (h' : Gathers shape' parser' pieces)
    (comparable : (shape = .text ↔ shape' = .text) ∨ ∀ piece ∈ pieces, piece.Lettered library)
    {kept : Bool} {path : List Nat} (yields : (parser.place kept path).Yields library input outcome)
    (path' : List Nat) :
    ∃ outcome', (parser'.place kept path').Yields library input outcome' ∧
      outcome'.map shape'.elements = outcome.map shape.elements ∧
      (1 < pieces.length →
        outcome' = outcome.map fun value => shape'.ofElements (shape.elements value)) := by
  have parsers : (pieces.map (Piece.leaf shape')).map Prod.fst =
      (pieces.map (Piece.leaf shape)).map Prod.fst := by
    rw [Piece.map_leaf_fst, Piece.map_leaf_fst]
  obtain ⟨outcome', ended, yields', read, read', made⟩ := h.nested.yields h'.nested parsers yields path'
  have same : ended.map (contents (pieces.map (Piece.leaf shape'))) =
      ended.map (contents (pieces.map (Piece.leaf shape))) := by
    cases ended with
    | success values r =>
      have yielded := List.forall₂_map_left_iff.mp (made values r rfl)
      refine congrArg (Outcome.success · r) (Piece.contents_leaf_eq ?_)
      obtain textual | lettered := comparable
      · exact yielded.imp fun piece value _ => congrFun (piece.leaf_eq_of_text_iff textual) value
      · refine ((List.forall₂_and_left _ _).mpr ⟨lettered, yielded⟩).imp fun piece value h => ?_
        obtain ⟨lettered, path, input, r, yields⟩ := h
        rw [piece.leaf_fst] at yields
        exact (lettered kept path ρ input r value yields).leaf_eq shape shape'
    | failure message r => rfl
    | error message r => rfl
  have elements : outcome'.map shape'.elements = outcome.map shape.elements :=
    read'.trans (same.trans read.symm)
  refine ⟨outcome', yields', elements, fun several => ?_⟩
  obtain ⟨combine, first, second, rfl, holds⟩ := h'.combines several
  have held : outcome'.map (fun value => shape'.ofElements (shape'.elements value)) = outcome' :=
    yields'.map_eq_self holds
  calc
    outcome' = (outcome'.map shape'.elements).map shape'.ofElements := by rw [Outcome.map_map, held]
    _ = outcome.map fun value => shape'.ofElements (shape.elements value) := by
      rw [elements, Outcome.map_map]

theorem GathersMixed.yields (h : GathersMixed parser leaves) (h' : GathersMixed parser' leaves)
    (several : 1 < leaves.length) {kept : Bool} {path : List Nat}
    (yields : (parser.place kept path).Yields library input outcome) (path' : List Nat) :
    (parser'.place kept path').Yields library input outcome := by
  obtain ⟨outcome', ended, yields', read, read', -⟩ := h.nested.yields h'.nested rfl yields path'
  have held : outcome.map (fun value => .mixed value.entries) = outcome := by
    obtain ⟨combine, first, second, rfl, holds⟩ := h.combines several
    exact yields.map_eq_self holds
  have held' : outcome'.map (fun value => .mixed value.entries) = outcome' := by
    obtain ⟨combine, first, second, rfl, holds⟩ := h'.combines several
    exact yields'.map_eq_self holds
  have ends : outcome' = outcome :=
    calc
      outcome' = (outcome'.map Value.entries).map .mixed := by rw [Outcome.map_map, held']
      _ = (outcome.map Value.entries).map .mixed := by rw [read', read]
      _ = outcome := by rw [Outcome.map_map, held]
  rwa [ends] at yields'

end Parser

end SafeDescent
