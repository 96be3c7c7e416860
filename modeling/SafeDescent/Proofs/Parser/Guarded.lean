import Mathlib.Data.Finset.Card
import Mathlib.Logic.Relation
import SafeDescent.Proofs.Parser.Substitution

namespace SafeDescent

open Relation

variable {ε : Type}

/-- Only finitely many names have a definition. -/
def Library.Finite (library : Library ε) : Prop :=
  ∃ names : Finset String, ∀ name, (library name).isSome → name ∈ names

namespace Parser

/-- The second parser is a part of the first: it may come to run when the first one runs. Where a
parser has to succeed before the part starts, as the first of a sequence before the second, that
parser is the guard of the part. -/
inductive Part (library : Library ε) : Parser ε → Option (Parser ε) → Parser ε → Prop
  | first {combine : Value → Value → Value} {first second : Parser ε} :
      Part library (.sequence combine first second) none first
  | second {combine : Value → Value → Value} {first second : Parser ε} :
      Part library (.sequence combine first second) (some first) second
  | preferred {first second : Parser ε} : Part library (.choice first second) none first
  | alternative {first second : Parser ε} : Part library (.choice first second) none second
  | round {bounds : Bounds} {body : Parser ε} : Part library (.many bounds body) none body
  | operand {join : Value → Value → Value → Value} {bounds : Bounds}
      {operand separator : Parser ε} :
      Part library (.chain join bounds operand separator) none operand
  | separator {join : Value → Value → Value → Value} {bounds : Bounds}
      {operand separator : Parser ε} :
      Part library (.chain join bounds operand separator) none separator
  | adjusted {adjustment : Adjustment} {body : Parser ε} :
      Part library (.adjust adjustment body) none body
  | decider {body : Parser ε} {next : Value → Parser ε} :
      Part library (.flatMap body next) none body
  | continuation {body : Parser ε} {next : Value → Parser ε} (value : Value) (root : Nat) :
      Part library (.flatMap body next) (some body) ((next value).place false [root])
  | selector {body : Parser ε} {index : Value → Nat} {branches : Nat → Parser ε} :
      Part library (.select body index branches) none body
  | branch {body : Parser ε} {index : Value → Nat} {branches : Nat → Parser ε} (i : Nat) :
      Part library (.select body index branches) (some body) (branches i)
  | tapped {id : String} {body : Parser ε} : Part library (.tap id body) none body
  | built {site : Site} {body : Parser ε} : Part library (.deferred site body) none body
  | unfolded {site : Site} {name : String} {body : Parser ε} :
      Part library (.fixpoint site name body) none (.unfold site name body)
  | copy {site : Site} {name : String} {scope : Reference → Parser ε} {body : Parser ε} :
      library name = some body →
        Part library (.copied site name scope) none
          ((body.substitute scope).place site.kept (0 :: site.path))
  | use {site : Site} {name : String} {body : Parser ε} : site.kept = true →
      Part library (.handle site name body) none (.fixpoint site name body)
  | shared {body : Parser ε} : Part library (.shared body) none body

/-- The second parser may start where the first one does: it is a part without a guard, or its guard
can succeed without an element. -/
def Exposes (library : Library ε) (consuming : Parser ε → Prop) (parser other : Parser ε) : Prop :=
  ∃ guard, Part library parser guard other ∧ ∀ before, guard = some before → ¬ consuming before

/-- The second parser is the first one, a part of it, a part of a part and so on. -/
def Comprises (library : Library ε) : Parser ε → Parser ε → Prop :=
  ReflTransGen fun parser other => ∃ guard, Part library parser guard other

/-- A definition that can refer to itself, and a use of it: a recursive definition is used as a
whole, and a definition of the library as any copy. -/
inductive Uses : Parser ε → Parser ε → Prop
  | whole {site : Site} {name : String} {body : Parser ε} :
      Uses (.fixpoint site name body) (.fixpoint site name body)
  | copy {site site' : Site} {name : String} {scope scope' : Reference → Parser ε} :
      Uses (.copied site name scope) (.copied site' name scope')

/-- On every way from a definition to a use of it there is a guard that only succeeds after an
element. -/
def Guarded (library : Library ε) (consuming : Parser ε → Prop) (parser : Parser ε) : Prop :=
  ∀ definition use, Comprises library parser definition → Uses definition use →
    ¬ TransGen (Exposes library consuming) definition use

/-- No definition leads to itself. -/
def WithoutRecursion (library : Library ε) (parser : Parser ε) : Prop :=
  ∀ definition use, Comprises library parser definition → Uses definition use →
    ¬ TransGen (fun parser other => ∃ guard, Part library parser guard other) definition use

variable {library : Library ε} {consuming : Parser ε → Prop} {parser other : Parser ε}

theorem guarded_of_withoutRecursion (h : WithoutRecursion library parser) :
    Guarded library consuming parser := by
  intro definition use comprises uses exposed
  apply h definition use comprises uses
  refine TransGen.mono ?_ definition use exposed
  intro p q exposes
  obtain ⟨guard, part, -⟩ := exposes
  exact ⟨guard, part⟩

theorem Part.exposes (h : Part library parser none other) :
    Exposes library consuming parser other := ⟨none, h, nofun⟩

theorem Exposes.comprises (h : Exposes library consuming parser other) :
    Comprises library parser other := by
  obtain ⟨guard, part, -⟩ := h
  exact .single ⟨guard, part⟩

theorem Guarded.of_comprises (h : Guarded library consuming parser)
    (comprises : Comprises library parser other) : Guarded library consuming other :=
  fun definition use inside => h definition use (comprises.trans inside)

/-- Every way down from a parser over parts that it exposes comes to an end. -/
def Grounded (library : Library ε) (consuming : Parser ε → Prop) (parser : Parser ε) : Prop :=
  Acc (fun other parser => Exposes library consuming parser other) parser

/-- The names of the copies that a parser exposes, at any depth. -/
def CopiesOnly (library : Library ε) (consuming : Parser ε → Prop) (names : Finset String)
    (parser : Parser ε) : Prop :=
  ∀ site name scope, ReflTransGen (Exposes library consuming) parser (.copied site name scope) →
    (library name).isSome → name ∈ names

/-- What is known of a parser under a meaning of its names, on the way down over exposed parts. -/
structure Descends (library : Library ε) (consuming : Parser ε → Prop) (names : Finset String)
    (meaning : Reference → Parser ε) (parser : Parser ε) : Prop where
  guarded : Guarded library consuming parser
  copies : CopiesOnly library consuming names parser
  meanings : ∀ target, ReflTransGen (Exposes library consuming) parser (meaning target) →
    Grounded library consuming (meaning target)

variable {names : Finset String} {meaning : Reference → Parser ε}

theorem Descends.exposes (h : Descends library consuming names meaning parser)
    (exposes : Exposes library consuming parser other) :
    Descends library consuming names meaning other where
  guarded := h.guarded.of_comprises exposes.comprises
  copies site name scope reaches := h.copies site name scope (reaches.head exposes)
  meanings target reaches := h.meanings target (reaches.head exposes)

theorem grounded_reference (target : Reference) :
    Grounded library consuming (.reference target) := by
  refine .intro _ fun other exposes => ?_
  obtain ⟨guard, part, -⟩ := exposes
  cases part

theorem Descends.unmeant (h : Descends library consuming names meaning parser) :
    Descends library consuming names .reference parser :=
  ⟨h.guarded, h.copies, fun target _ => grounded_reference target⟩

/-- A handle inside a recursive definition is not exposed by it, unless it leads nowhere. -/
theorem Guarded.grounded_handle {site : Site} {name : String} {body : Parser ε}
    (h : Guarded library consuming (.fixpoint site name body))
    (reaches : ReflTransGen (Exposes library consuming) (.unfold site name body)
      (.handle site name body)) :
    Grounded library consuming (.handle site name body) := by
  refine .intro _ fun other exposes => ?_
  obtain ⟨guard, part, -⟩ := exposes
  cases part with
  | use kept =>
    have back : Exposes library consuming (.handle site name body) (.fixpoint site name body) :=
      (Part.use kept).exposes
    have round := TransGen.head' Part.unfolded.exposes (reaches.tail back)
    exact absurd round (h _ _ .refl .whole)

theorem Descends.of_parts (h : Descends library consuming names meaning parser)
    (parts : ∀ guard other, Part library parser guard other →
      Descends library consuming names meaning other → Grounded library consuming other) :
    Grounded library consuming parser := by
  refine .intro _ fun other exposes => ?_
  have below := h.exposes exposes
  obtain ⟨guard, part, -⟩ := exposes
  exact parts guard other part below

end Parser

end SafeDescent
