import SafeDescent.Parser.Report

namespace SafeDescent

/-- How a definition is put into the table. -/
inductive Kind where
  | plain
  | lazy
  | recursive
deriving DecidableEq

/-- A definition that was put into the table at some time: the parser that it is, its handle if it
is recursive, the path by which its building is remembered if it is built later, and the numbers of
the definitions that it holds. -/
structure Installed (ε : Type) where
  parser : Parser ε
  handle : Option (Parser ε)
  path : Option (List Nat)
  imports : List Nat

/-- A table of named definitions. Definitions that were replaced or dropped stay on record, since
others may hold them. -/
structure Session (ε : Type) where
  store : Store := {}
  installed : Array (Installed ε) := #[]
  table : List (String × Nat) := []

namespace Session

variable {ε : Type}

def lookup (session : Session ε) (name : String) : Option Nat :=
  (session.table.find? fun (other, _) => other == name).map Prod.snd

def entry? (session : Session ε) (name : String) : Option (Installed ε) :=
  (session.lookup name).bind fun number => session.installed[number]?

/-- The definitions that are in the table, or that a live definition holds. A definition holds only
earlier ones, so one pass from the latest on finds them all. -/
def live (session : Session ε) : List Nat :=
  (List.range session.installed.size).foldr
    (fun number alive =>
      let inTable := session.table.any fun (_, other) => other == number
      let isImported := alive.any fun holder =>
        match session.installed[holder]? with
        | some definition => definition.imports.contains number
        | none => false
      if inTable || isImported then number :: alive else alive)
    []

/-- Removes a name from the table. The answer says whether it was there. -/
def drop (session : Session ε) (name : String) : Bool × Session ε :=
  ((session.lookup name).isSome,
    { session with table := session.table.filter fun (other, _) => other != name })

/-- What the imported names mean now, for those that are in the table. -/
def resolve (session : Session ε) (imports : List String) : List (String × Nat × Parser ε) :=
  imports.filterMap fun name =>
    (session.lookup name).bind fun number =>
      (session.installed[number]?).map fun definition => (name, number, definition.parser)

/-- What the open names of a definition mean, given what it imports. -/
def meaning (found : List (String × Nat × Parser ε)) : Reference → Parser ε
  | .binder name => .reference (.binder name)
  | .definition name =>
    match found.find? fun (other, _) => other == name with
    | some (_, _, parser) => .shared parser
    | none => .reference (.definition name)

/-- The definition of a kind with a given label, at a path. -/
def install (kind : Kind) (label : Label) (path : List Nat) (imports : List Nat)
    (body : Parser ε) : Installed ε :=
  let site : Site := ⟨path, true, some label⟩
  match kind with
  | .plain => ⟨body.place true path, none, none, imports⟩
  | .lazy => ⟨.deferred site (body.place true (0 :: path)), none, some path, imports⟩
  | .recursive =>
    let body := body.place true (0 :: path)
    ⟨.fixpoint site label.name body, some (.handle site label.name body), some path, imports⟩

/-- Puts a definition into the table, in the place of any of that name. The names that it imports
mean what they mean now, and the definition holds what they mean. -/
def define (session : Session ε) (kind : Kind) (name : String) (imports : List String)
    (body : Parser ε) : Session ε :=
  let found := session.resolve imports
  let body := body.substitute (meaning found)
  let number := session.installed.size
  let (root, store) := session.store.fresh
  let definition := install kind ⟨name, number⟩ [root] (found.map fun (_, number, _) => number) body
  { store := store
    installed := session.installed.push definition
    table := (name, number) :: session.table.filter fun (other, _) => other != name }

/-- Whether a lazy or recursive definition has been built; nothing for any other name. -/
def isBuilt? (session : Session ε) (name : String) : Option Bool :=
  ((session.entry? name).bind Installed.path).map session.store.isBuilt

/-- What a name stands for when it is parsed with. -/
def parser? (session : Session ε) (name : String) : Option (Parser ε) :=
  (session.entry? name).map Installed.parser

/-- The handle that the building of a recursive definition left under a name. It leads nowhere once
the definition is not live. -/
def handle? (session : Session ε) (name : String) : Option (Parser ε) :=
  (session.store.handle? name).map fun label =>
    match (session.installed[label.number]?).bind Installed.handle with
    | some handle => if session.live.contains label.number then handle else .reference (.binder name)
    | none => .reference (.binder name)

/-- What can be done with a table. -/
inductive Step (ρ ε : Type) where
  | define (kind : Kind) (name : String) (imports : List String) (body : Parser ε)
  | parse (name : String) (extent : Extent) (input : ρ)
  | handle (name : String) (extent : Extent) (input : ρ)
  | built (name : String)
  | drop (name : String)

/-- What a step answers. -/
inductive Reply (ρ : Type) where
  | defined
  | undefined
  | noHandle
  | parsed (report : Report ρ)
  | built (answer : Option Bool)
  | dropped (present : Bool)

variable {ρ : Type} [Reader ρ ε] [Element ε] [DecidableEq ε]

/-- An observed run of a parser with what the session remembers. -/
def run (session : Session ε) (library : Library ε) (fuel : Nat) (extent : Extent)
    (parser : Parser ε) (input : ρ) : Option (Reply ρ × Session ε) :=
  (session.store.parse library fuel extent parser input).map fun (report, store) =>
    (.parsed report, { session with store := store })

/-- One step. There is no answer only if a run takes more turns than `fuel`. -/
def perform (session : Session ε) (library : Library ε) (fuel : Nat) :
    Step ρ ε → Option (Reply ρ × Session ε)
  | .define kind name imports body => some (.defined, session.define kind name imports body)
  | .parse name extent input =>
    match session.parser? name with
    | some parser => session.run library fuel extent parser input
    | none => some (.undefined, session)
  | .handle name extent input =>
    match session.handle? name with
    | some parser => session.run library fuel extent parser input
    | none => some (.noHandle, session)
  | .built name => some (.built (session.isBuilt? name), session)
  | .drop name =>
    let (present, session) := session.drop name
    some (.dropped present, session)

end Session

end SafeDescent
