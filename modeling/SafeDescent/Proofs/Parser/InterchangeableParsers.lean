import SafeDescent.Parser.Combinators
import SafeDescent.Proofs.Parser.Relocation

namespace SafeDescent

/-- A parser that reads nothing itself: it passes a value on, or what comes from another parser. -/
def Parser.Connects {ε : Type} : Parser ε → Prop
  | .primitive (.succeed _) | .sequence _ _ _ | .flatMap _ _ | .adjust (.map _) _ | .shared _ => True
  | _ => False

section

variable {ρ ε : Type} {names : String → Prop} {extra extra' more more' : Nat}
  {starts starts' rest rest' : List (Start ρ ε)}

/-- The starts of two runs side by side: the same parsers in the same order, each from the same
position. Only some that connect may stand on one side alone, and their number is limited. -/
inductive Aligned (names : String → Prop) :
    Nat → Nat → List (Start ρ ε) → List (Start ρ ε) → Prop
  | nil {extra extra' : Nat} : Aligned names extra extra' [] []
  | same {extra extra' : Nat} {start start' : Start ρ ε} {rest rest' : List (Start ρ ε)} :
      Start.Relocated names start start' → Aligned names extra extra' rest rest' →
        Aligned names extra extra' (start :: rest) (start' :: rest')
  | first {extra extra' : Nat} {start : Start ρ ε} {rest rest' : List (Start ρ ε)} :
      start.parser.Connects → Aligned names extra extra' rest rest' →
        Aligned names (extra + 1) extra' (start :: rest) rest'
  | second {extra extra' : Nat} {start : Start ρ ε} {rest rest' : List (Start ρ ε)} :
      start.parser.Connects → Aligned names extra extra' rest rest' →
        Aligned names extra (extra' + 1) rest (start :: rest')

namespace Aligned

theorem of_relocated (h : List.Forall₂ (Start.Relocated names) starts starts') :
    Aligned names 0 0 starts starts' := by
  induction h with
  | nil => exact .nil
  | cons start _ ih => exact .same start ih

theorem add (h : Aligned names extra extra' starts starts') (more more' : Nat) :
    Aligned names (extra + more) (extra' + more') starts starts' := by
  induction h with
  | nil => exact .nil
  | same start _ ih => exact .same start ih
  | first connects _ ih =>
    rw [Nat.add_right_comm]
    exact .first connects ih
  | second connects _ ih =>
    rw [Nat.add_right_comm]
    exact .second connects ih

theorem widen (h : Aligned names 0 0 starts starts') : Aligned names extra extra' starts starts' := by
  have wider := h.add extra extra'
  rwa [Nat.zero_add, Nat.zero_add] at wider

theorem append (h : Aligned names extra extra' starts starts')
    (h' : Aligned names more more' rest rest') :
    Aligned names (more + extra) (more' + extra') (starts ++ rest) (starts' ++ rest') := by
  induction h with
  | @nil extra extra' => exact h'.add extra extra'
  | same start _ ih => exact .same start ih
  | first connects _ ih => exact .first connects ih
  | second connects _ ih => exact .second connects ih

theorem snoc_first (h : Aligned names extra extra' starts starts') {start : Start ρ ε}
    (connects : start.parser.Connects) :
    Aligned names (1 + extra) extra' (starts ++ [start]) starts' := by
  have passed : Aligned names 1 0 [start] [] := .first connects .nil
  have whole := h.append passed
  rwa [List.append_nil, Nat.zero_add] at whole

theorem snoc_second (h : Aligned names extra extra' starts starts') {start : Start ρ ε}
    (connects : start.parser.Connects) :
    Aligned names extra (1 + extra') starts (starts' ++ [start]) := by
  have passed : Aligned names 0 1 [] [start] := .second connects .nil
  have whole := h.append passed
  rwa [List.append_nil, Nat.zero_add] at whole

end Aligned

end

variable {ε : Type} [Element ε] [DecidableEq ε]

namespace Parser

/-- The two parsers run to the same outcome from every position of every reader, and start the same
parsers in the same order, but for at most so many on either side that connect. -/
structure Interchangeable (library : Library ε) (names : String → Prop) (extra extra' : Nat)
    (parser parser' : Parser ε) : Prop where
  equivalent : parser.Equivalent library parser'
  aligned (ρ : Type) [Reader ρ ε] (input : ρ) (store store' last last' : Store)
    (starts starts' : List (Start ρ ε)) (outcome outcome' : Outcome ρ Value) :
    parser.Runs library input store starts outcome last →
      parser'.Runs library input store' starts' outcome' last' →
        Aligned names extra extra' starts starts'

section

variable {library : Library ε} {names : String → Prop} {extra extra' : Nat}
  {parser parser' body body' : Parser ε} {ρ : Type} [Reader ρ ε] {input : ρ} {store last : Store}
  {starts : List (Start ρ ε)} {outcome : Outcome ρ Value}

/-- It is enough to find, for every run of the first parser, one of the second with its starts side by
side, and that the second parser ends only where the first one does. -/
theorem Interchangeable.of_runs
    (forward : ∀ (ρ : Type) [Reader ρ ε] (input : ρ) (store store' last : Store)
      (starts : List (Start ρ ε)) (outcome : Outcome ρ Value),
        parser.Runs library input store starts outcome last →
          ∃ starts' last', parser'.Runs library input store' starts' outcome last' ∧
            Aligned names extra extra' starts starts')
    (backward : ∀ (ρ : Type) [Reader ρ ε] (input : ρ) (outcome : Outcome ρ Value),
      parser'.Yields library input outcome → parser.Yields library input outcome) :
    parser.Interchangeable library names extra extra' parser' where
  equivalent := by
    refine .of_runs fun ρ _ input store store' outcome => ⟨fun h => ?_, fun h => ?_⟩
    · obtain ⟨starts, last, runs⟩ := h
      obtain ⟨starts', last', runs', -⟩ := forward ρ input store store' last starts outcome runs
      exact ⟨starts', last', runs'⟩
    · obtain ⟨starts', last', runs'⟩ := h
      exact (backward ρ input outcome runs'.yields).runs store
  aligned ρ _ input store store' last last' starts starts' outcome outcome' runs runs' := by
    obtain ⟨starts'', last'', runs'', aligned⟩ :=
      forward ρ input store store' last starts outcome runs
    obtain ⟨rfl, -, -⟩ := runs''.unique.mp runs'
    exact aligned

theorem Interchangeable.yields_iff (h : parser.Interchangeable library names extra extra' parser') :
    parser.Yields library input outcome ↔ parser'.Yields library input outcome := by
  have same := h.equivalent ρ input .part {} {} outcome
  simpa only [Store.answers_iff_yields, Extent.finish, exists_eq_right] using same

theorem Interchangeable.runs (h : parser.Interchangeable library names extra extra' parser')
    (runs : parser.Runs library input store starts outcome last) (store' : Store) :
    ∃ starts' last', parser'.Runs library input store' starts' outcome last' ∧
      Aligned names extra extra' starts starts' := by
  obtain ⟨starts', last', runs'⟩ := (h.yields_iff.mp runs.yields).runs store'
  exact ⟨starts', last', runs', h.aligned ρ input store store' _ _ _ _ _ _ runs runs'⟩

theorem Relocated.interchangeable (hl : library.Portable names) (h : Relocated names parser parser')
    (h' : Relocated names parser' parser) : parser.Interchangeable library names 0 0 parser' := by
  refine .of_runs (fun ρ _ input store store' last starts outcome runs => ?_)
    fun ρ _ input outcome yields => h'.yields hl yields
  obtain ⟨starts', last', runs', same⟩ := h.runs hl runs store'
  exact ⟨starts', last', runs', .of_relocated same⟩

/-- A parser may move to another place. -/
theorem interchangeable_place (hl : library.Portable names) (parser : Parser ε) {kept kept' : Bool}
    (free : kept = kept' ∨ parser.Portable names) (path path' : List Nat) :
    (parser.place kept path).Interchangeable library names 0 0 (parser.place kept' path') :=
  have moved : Relocated names parser parser := .refl parser
  (moved.place free path path').interchangeable hl (moved.place (free.imp_left Eq.symm) path' path)

theorem interchangeable_shared (h : body.Interchangeable library names extra extra' body') :
    body.Interchangeable library names extra (extra' + 1) (.shared body') := by
  refine .of_runs (fun ρ _ input store store' last starts outcome runs => ?_)
    fun ρ _ input outcome yields => ?_
  · obtain ⟨starts', last', runs', aligned⟩ := h.runs runs store'
    exact ⟨_, last', runs_shared_iff.mpr ⟨starts', rfl, runs'⟩, .second trivial aligned⟩
  · obtain ⟨starts, last, runs⟩ := yields
    obtain ⟨rest, -, runs⟩ := runs_shared_iff.mp runs
    exact h.yields_iff.mpr runs.yields

theorem yields_succeed (value : Value) :
    (succeed value : Parser ε).Yields library input (.success value input) :=
  yields_primitive_iff.mpr rfl

theorem runs_succeed (value : Value) :
    (succeed value : Parser ε).Runs library input store [⟨succeed value, input⟩]
      (.success value input) store :=
  runs_primitive_iff.mpr ⟨rfl, rfl, rfl⟩

end

end Parser

end SafeDescent
