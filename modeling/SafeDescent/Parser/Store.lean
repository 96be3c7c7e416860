import SafeDescent.Memo
import SafeDescent.Parser
import Std.Data.HashSet

namespace SafeDescent

/-- What is remembered from run to run, and what was recorded, the latest first. No outcome of a
parse depends on it. -/
structure Store where
  /-- The paths of the definitions that have been built. -/
  built : Std.HashSet (List Nat) := {}
  /-- How many parsers have been given a number. -/
  roots : Nat := 0
  /-- The labelled recursive definitions that have been built, by name; a later one replaces an
  earlier one of its name. -/
  handles : List Label := []
  records : List Record := []
  events : List Event := []

namespace Store

def note (store : Store) (record : Record) : Store :=
  { store with records := record :: store.records }

def emit (store : Store) (event : Event) : Store :=
  { store with events := event :: store.events }

/-- Forgets what was recorded. -/
def silence (store : Store) : Store := { store with records := [], events := [] }

/-- A number that no parser has yet. -/
def fresh (store : Store) : Nat × Store :=
  (store.roots, { store with roots := store.roots + 1 })

def isBuilt (store : Store) (path : List Nat) : Bool := store.built.contains path

/-- The building of a labelled definition is an event. -/
def announce (store : Store) : Option Label → Store
  | none => store
  | some label => store.emit (.build label.name)

/-- The memo of the definition at a site. The definition itself stands in its parser, so the memo
keeps no more than that it was built. -/
def memo (store : Store) (site : Site) : Memo Site Unit :=
  if store.isBuilt site.path then .ready () else .pending site

/-- The construction of a definition: it is announced, and from then on it counts as built. -/
def construct (site : Site) (store : Store) : Unit × Store :=
  let store := store.announce site.label
  ((), { store with built := store.built.insert site.path })

/-- Builds the definition at a site unless that was done before. -/
def build (store : Store) (site : Site) : Store :=
  ((store.memo site).force construct (fun record store => store.note record) store).2.2

/-- The building of a labelled recursive definition leaves a handle to it. -/
def keepHandle (store : Store) : Option Label → Store
  | none => store
  | some label =>
    { store with handles := label :: store.handles.filter fun other => other.name != label.name }

/-- Builds the recursive definition at a site unless that was done before. -/
def buildRecursive (store : Store) (site : Site) : Store :=
  if store.isBuilt site.path then store else (store.keepHandle site.label).build site

def handle? (store : Store) (name : String) : Option Label :=
  store.handles.find? fun label => label.name == name

end Store

end SafeDescent
