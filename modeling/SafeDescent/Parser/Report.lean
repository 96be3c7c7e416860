import SafeDescent.Parser.Machine

namespace SafeDescent

/-- How much of the input a parse has to read. -/
inductive Extent where
  | part
  | whole
deriving DecidableEq

/-- What an observer sees of a run, the earliest first. -/
structure Report (ρ : Type) where
  outcome : Outcome ρ Value
  events : List Event
  records : List Record

variable {ρ ε : Type} [Reader ρ ε] [Element ε] [DecidableEq ε]

namespace Store

/-- Runs a parser whose definitions have their sites, in at most `fuel` turns. -/
def run (store : Store) (library : Library ε) (fuel : Nat) (parser : Parser ε) (input : ρ) :
    Option (Outcome ρ Value × Store) :=
  ((parsing library).run fuel (.more ⟨parser, input⟩) store).map fun finished =>
    (finished.value, finished.state)

/-- Like `run`, but input that is left over makes a success a failure, and whatever is not a
success is noted. -/
def runAll (store : Store) (library : Library ε) (fuel : Nat) (parser : Parser ε) (input : ρ) :
    Option (Outcome ρ Value × Store) :=
  (store.run library fuel parser input).map fun (outcome, store) =>
    let outcome := outcome.requireEnd
    match outcome.message? with
    | none => (outcome, store)
    | some message =>
      (outcome, store.note (.parseAllStopped (Reader.offset outcome.remaining) message))

/-- One observed run. -/
def parse (store : Store) (library : Library ε) (fuel : Nat) (extent : Extent)
    (parser : Parser ε) (input : ρ) : Option (Report ρ × Store) :=
  let finished := match extent with
    | .part => store.silence.run library fuel parser input
    | .whole => store.silence.runAll library fuel parser input
  finished.map fun (outcome, store) =>
    (⟨outcome, store.events.reverse, store.records.reverse⟩, store)

/-- Observed runs of one parser on several inputs in turn. -/
def parseEach (store : Store) (library : Library ε) (fuel : Nat) (extent : Extent)
    (parser : Parser ε) : List ρ → Option (List (Report ρ) × Store)
  | [] => some ([], store)
  | input :: inputs => do
    let (report, store) ← store.parse library fuel extent parser input
    let (reports, store) ← store.parseEach library fuel extent parser inputs
    return (report :: reports, store)

/-- Gives a parser a number, and its definitions their sites. From then on it is an object of its
own that can be run many times. -/
def install (store : Store) (parser : Parser ε) : Parser ε × Store :=
  let (root, store) := store.fresh
  (parser.place true [root], store)

end Store

/-- Runs a parser once on its own. -/
def Parser.parse (parser : Parser ε) (fuel : Nat) (input : ρ) : Option (Outcome ρ Value) :=
  let (parser, store) := ({} : Store).install parser
  (store.run (fun _ => none) fuel parser input).map Prod.fst

/-- Runs a parser once on its own, and requires that it reads the whole input. -/
def Parser.parseAll (parser : Parser ε) (fuel : Nat) (input : ρ) : Option (Outcome ρ Value) :=
  let (parser, store) := ({} : Store).install parser
  (store.runAll (fun _ => none) fuel parser input).map Prod.fst

end SafeDescent
