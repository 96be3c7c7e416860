import SafeDescent.Parser.Store
import SafeDescent.Trampoline
import SafeDescent.Value.Function

namespace SafeDescent

/-- A parser that is to start at a position. -/
structure Start (ρ ε : Type) where
  parser : Parser ε
  input : ρ

/-- What is to be done with the outcome of the parser that runs now. -/
inductive Frame (ρ ε : Type) where
  /-- The first of a sequence runs; then comes the second. -/
  | following (combine : Value → Value → Value) (second : Parser ε)
  /-- The second of a sequence runs. -/
  | joining (combine : Value → Value → Value) (first : Value)
  /-- The first of a choice runs; the second would start again. -/
  | otherwise (second : Parser ε) (start : ρ)
  /-- The second of a choice runs after the first failed. -/
  | comparing (message : String) (stopped : ρ)
  /-- A round of a repetition runs. -/
  | repeating (bounds : Bounds) (body : Parser ε) (values : Array Value) (start : ρ)
  /-- The first operand of a chain runs. -/
  | opening (join : Value → Value → Value → Value) (bounds : Bounds) (operand separator : Parser ε)
      (start : ρ)
  /-- The separators and operands after the first operand of a chain run. -/
  | folding (join : Value → Value → Value → Value) (first : Value)
  | adjusting (adjustment : Adjustment) (start : ρ)
  /-- The parser whose value decides how to go on runs. -/
  | choosing (next : Value → Parser ε)
  /-- The parser whose value picks a branch runs. -/
  | selecting (index : Value → Nat) (branches : Nat → Parser ε)
  | leaving (id : String)

abbrev Run (ρ ε : Type) := Trampoline (Start ρ ε) (Frame ρ ε) (Outcome ρ Value)

/-- Starts a parser and then goes on with a frame. -/
def Run.start {ρ ε : Type} (parser : Parser ε) (input : ρ) (frame : Frame ρ ε) : Run ρ ε :=
  .flatMap (.more ⟨parser, input⟩) frame

/-- The next round of a repetition, unless the values so far are as many as there may be. -/
def Run.round {ρ ε : Type} (bounds : Bounds) (body : Parser ε) (values : Array Value) (input : ρ) :
    Run ρ ε :=
  if bounds.max = some values.size then .done (.success (.list values.toList) input)
  else .start body input (.repeating bounds body values input)

/-- Joins the operands after the first one by one; each comes with its separator. -/
def foldOperands (join : Value → Value → Value → Value) (first : Value) (operations : Value) :
    Value :=
  operations.items.foldl
    (fun joined operation =>
      match operation with
      | .tuple [sign, operand] => join sign joined operand
      | _ => joined)
    first

section

variable {ρ ε : Type} [Reader ρ ε]

/-- A reference that leads nowhere is a fatal error where it is used. -/
def Store.dangle (store : Store) (input : ρ) : Run ρ ε × Store :=
  (.done (.error "recursive parser is no longer alive" input),
    store.note (.danglingReference (Reader.offset input)))

/-- What a round of a repetition leads to. A success that did not move on ends the repetition
once there are enough values; a failure ends it before the round. -/
def afterRound (bounds : Bounds) (body : Parser ε) (values : Array Value) (start : ρ) :
    Outcome ρ Value → Run ρ ε
  | .success value remaining =>
    let values := values.push value
    if Reader.offset remaining = Reader.offset start ∧ bounds.min ≤ values.size then
      .done (.success (.list values.toList) remaining)
    else .round bounds body values remaining
  | .failure message remaining =>
    if bounds.min ≤ values.size then .done (.success (.list values.toList) start)
    else .done (.failure message remaining)
  | .error message remaining => .done (.error message remaining)

/-- What the first operand of a chain leads to. -/
def afterOperand (join : Value → Value → Value → Value) (bounds : Bounds)
    (operand separator : Parser ε) (start : ρ) : Outcome ρ Value → Run ρ ε
  | .success value remaining =>
    .start (.many bounds.afterFirst (.sequence Value.pair separator operand)) remaining
      (.folding join value)
  | .failure message remaining =>
    if bounds.min = 0 then .done (.success .none start) else .done (.failure message remaining)
  | .error message remaining => .done (.error message remaining)

variable [Element ε]

/-- What an outcome leads to when it reaches a frame. -/
def Frame.resume (frame : Frame ρ ε) (outcome : Outcome ρ Value) (store : Store) :
    Run ρ ε × Store :=
  match frame with
  | .following combine second =>
    (outcome.andThen .done fun value remaining => .start second remaining (.joining combine value),
      store)
  | .joining combine first => (.done (outcome.map (combine first)), store)
  | .otherwise second start =>
    (outcome.recover .done fun message stopped => .start second start (.comparing message stopped),
      store)
  | .comparing message stopped => (.done (outcome.furthest message stopped), store)
  | .repeating bounds body values start => (afterRound bounds body values start outcome, store)
  | .opening join bounds operand separator start =>
    (afterOperand join bounds operand separator start outcome, store)
  | .folding join first =>
    (.done (outcome.map fun operations => .some (foldOperands join first operations)), store)
  | .adjusting adjustment start => (.done (adjustment.apply start outcome), store)
  | .choosing next =>
    outcome.andThen (fun stopped => (.done stopped, store)) fun value remaining =>
      let (root, store) := store.fresh
      (.more ⟨(next value).place false [root], remaining⟩, store)
  | .selecting index branches =>
    (outcome.andThen .done fun value remaining => .more ⟨branches (index value), remaining⟩, store)
  | .leaving id => (.done outcome, if outcome.isSuccess then store.emit (.leave id) else store)

variable [DecidableEq ε]

/-- The first thing that a parser does at a position. -/
def Start.call (library : Library ε) (start : Start ρ ε) (store : Store) : Run ρ ε × Store :=
  let input := start.input
  match start.parser with
  | .primitive p => (.done (p.run input), store)
  | .sequence combine first second => (.start first input (.following combine second), store)
  | .choice first second => (.start first input (.otherwise second input), store)
  | .many bounds body => (.round bounds body #[] input, store)
  | .chain join bounds operand separator =>
    if bounds.max = some 0 then (.done (.success .none input), store)
    else (.start operand input (.opening join bounds operand separator input), store)
  | .adjust adjustment body => (.start body input (.adjusting adjustment input), store)
  | .flatMap body next => (.start body input (.choosing next), store)
  | .select body index branches => (.start body input (.selecting index branches), store)
  | .tap id body => (.start body input (.leaving id), store.emit (.enter id))
  | .deferred site body => (.more ⟨body, input⟩, store.build site)
  | .fixpoint site name body => (.more ⟨.unfold site name body, input⟩, store.buildRecursive site)
  | .copied site name scope =>
    match library name with
    | some body =>
      let body := body.substitute scope
      (.more ⟨body.place site.kept (0 :: site.path), input⟩, store.build site)
    | none => store.dangle input
  | .reference _ => store.dangle input
  | .handle site name body =>
    if site.kept then (.more ⟨.fixpoint site name body, input⟩, store) else store.dangle input
  | .shared body => (.more ⟨body, input⟩, store)

/-- Parsing as deferred computation: a thunk starts a parser, and a continuation is a frame. -/
def parsing (library : Library ε) : Engine (Start ρ ε) (Frame ρ ε) (Outcome ρ Value) Store where
  call := Start.call library
  resume := Frame.resume

end

end SafeDescent
