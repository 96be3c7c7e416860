import SafeDescent.Parser.Adjustment

namespace SafeDescent

/-- How often a parser is repeated. No upper bound lies below the lower one. -/
structure Bounds where
  min : Nat
  max : Option Nat
  min_le (limit : Nat) : max = some limit → min ≤ limit

namespace Bounds

/-- An upper bound below the lower one is raised to it. -/
def between (min : Nat) (max : Option Nat) : Bounds where
  min := min
  max := max.map (Nat.max · min)
  min_le limit h := by
    obtain ⟨given, _, rfl⟩ := Option.map_eq_some_iff.1 h
    exact Nat.le_max_right given min

/-- The bounds for what follows a first item. -/
def afterFirst (bounds : Bounds) : Bounds where
  min := bounds.min - 1
  max := bounds.max.map (· - 1)
  min_le limit h := by
    obtain ⟨given, hgiven, rfl⟩ := Option.map_eq_some_iff.1 h
    have := bounds.min_le given hgiven
    omega

end Bounds

/-- A name that is open in a parser: the handle of a recursive definition around it, or a
definition of the table that it is put into. -/
inductive Reference where
  | binder (name : String)
  | definition (name : String)
deriving DecidableEq

/-- The name under which a definition was put into a table, and its number there. -/
structure Label where
  name : String
  number : Nat
deriving DecidableEq

/-- The identity of a definition that is built when it is first used: the way to it through the
parser that it is part of, the last step first, down to the number of that parser.

`kept` says whether something other than its own run holds the definition, so that a handle to it
still finds it there. A loop holds what it repeats; all else lets go of a parser as soon as it has
started. So a definition that stands under no loop, in a parser that nobody keeps, is not kept. -/
structure Site where
  path : List Nat := []
  kept : Bool := false
  label : Option Label := none

/-- Parsers over elements of a type. A parser is a plain description; running it is the work of
the machine. -/
inductive Parser (ε : Type) where
  | primitive (p : Primitive ε)
  /-- Runs the second on what the first leaves, and combines their values. -/
  | sequence (combine : Value → Value → Value) (first second : Parser ε)
  /-- Runs the second where the first started if the first fails. -/
  | choice (first second : Parser ε)
  | many (bounds : Bounds) (body : Parser ε)
  /-- Operands with separators between them. The values are joined from the left, and the value
  of a separator decides how. -/
  | chain (join : Value → Value → Value → Value) (bounds : Bounds) (operand separator : Parser ε)
  | adjust (adjustment : Adjustment) (body : Parser ε)
  /-- Goes on with a parser that is made from the value. -/
  | flatMap (body : Parser ε) (next : Value → Parser ε)
  /-- Goes on with one of the parsers that stand ready; the value says which. -/
  | select (body : Parser ε) (index : Value → Nat) (branches : Nat → Parser ε)
  /-- Records when its body starts and when it succeeds. -/
  | tap (id : String) (body : Parser ε)
  /-- Built when it is first used. -/
  | deferred (site : Site) (body : Parser ε)
  /-- Built when it is first used; inside, the name refers to the whole. -/
  | fixpoint (site : Site) (name : String) (body : Parser ε)
  /-- A copy of its own of a definition from the library, built when it is first used. The names
  that are open in the definition mean what they mean at the copy. -/
  | copied (site : Site) (name : String) (scope : Reference → Parser ε)
  | reference (target : Reference)
  /-- A use of a recursive definition that does not hold the definition. -/
  | handle (site : Site) (name : String) (body : Parser ε)
  /-- A use of a parser that has its place elsewhere. -/
  | shared (body : Parser ε)

namespace Parser

variable {ε : Type}

/-- A parser that is built when it is first used. -/
def lazy (body : Parser ε) : Parser ε := .deferred {} body

/-- A parser that refers to itself by a name. -/
def recursive (name : String) (body : Parser ε) : Parser ε := .fixpoint {} name body

/-- A copy of a definition from the library. -/
def named (name : String) : Parser ε := .copied {} name .reference

/-- Puts parsers in the places of the open names. Inside a recursive definition its own name means
the definition and stays. What the other names mean must itself have no open names that a recursive
definition around the place could catch. -/
def substitute (parser : Parser ε) (meaning : Reference → Parser ε) : Parser ε :=
  match parser with
  | .primitive p => .primitive p
  | .sequence combine first second =>
    .sequence combine (first.substitute meaning) (second.substitute meaning)
  | .choice first second => .choice (first.substitute meaning) (second.substitute meaning)
  | .many bounds body => .many bounds (body.substitute meaning)
  | .chain join bounds operand separator =>
    .chain join bounds (operand.substitute meaning) (separator.substitute meaning)
  | .adjust adjustment body => .adjust adjustment (body.substitute meaning)
  | .flatMap body next => .flatMap (body.substitute meaning) fun v => (next v).substitute meaning
  | .select body index branches =>
    .select (body.substitute meaning) index fun i => (branches i).substitute meaning
  | .tap id body => .tap id (body.substitute meaning)
  | .deferred site body => .deferred site (body.substitute meaning)
  | .fixpoint site name body =>
    .fixpoint site name (body.substitute fun target =>
      if target = .binder name then .reference target else meaning target)
  | .copied site name scope => .copied site name fun target => (scope target).substitute meaning
  | .reference target => meaning target
  | .handle site name body => .handle site name body
  | .shared body => .shared body

/-- Gives one open name a meaning, and leaves the others open. -/
def only (target : Reference) (replacement : Parser ε) (other : Reference) : Parser ε :=
  if other = target then replacement else .reference other

/-- The body of a recursive definition, with a handle to the definition in the place of its name. -/
def unfold (site : Site) (name : String) (body : Parser ε) : Parser ε :=
  body.substitute (only (.binder name) (.handle site name body))

/-- Gives every definition in a parser its site, for a parser at the end of a path. A parser that a
function makes gets its place when it is made. -/
def place (parser : Parser ε) (kept : Bool) (path : List Nat) : Parser ε :=
  match parser with
  | .primitive p => .primitive p
  | .sequence combine first second =>
    .sequence combine (first.place kept (0 :: path)) (second.place kept (1 :: path))
  | .choice first second => .choice (first.place kept (0 :: path)) (second.place kept (1 :: path))
  | .many bounds body => .many bounds (body.place true (0 :: path))
  | .chain join bounds operand separator =>
    .chain join bounds (operand.place true (0 :: path)) (separator.place true (1 :: path))
  | .adjust adjustment body => .adjust adjustment (body.place kept (0 :: path))
  | .flatMap body next => .flatMap (body.place kept (0 :: path)) next
  | .select body index branches =>
    .select (body.place kept (0 :: path)) index fun i => (branches i).place kept ((i + 1) :: path)
  | .tap id body => .tap id (body.place kept (0 :: path))
  | .deferred site body => .deferred ⟨path, kept, site.label⟩ (body.place kept (0 :: path))
  | .fixpoint site name body =>
    .fixpoint ⟨path, kept, site.label⟩ name (body.place kept (0 :: path))
  | .copied site name scope => .copied ⟨path, kept, site.label⟩ name scope
  | .reference target => .reference target
  | .handle site name body => .handle site name body
  | .shared body => .shared body

end Parser

/-- Definitions by name, for parsers that copy them. -/
abbrev Library (ε : Type) := String → Option (Parser ε)

end SafeDescent
