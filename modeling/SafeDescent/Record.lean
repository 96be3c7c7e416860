namespace SafeDescent

/-- What a log record reports. -/
inductive Record where
  /-- A deferred value was constructed. -/
  | lazyConstructed
  /-- A computation came to its end. -/
  | trampolineFinished (steps deepest : Nat)
  /-- A parse of the whole input did not succeed. -/
  | parseAllStopped (offset : Nat) (message : String)
  /-- A reference was followed after its parser was gone. -/
  | danglingReference (offset : Nat)
deriving DecidableEq

namespace Record

def level : Record → String
  | .lazyConstructed => "TRACE"
  | .trampolineFinished _ _ => "TRACE"
  | .parseAllStopped _ _ => "DEBUG"
  | .danglingReference _ => "WARN"

def text : Record → String
  | .lazyConstructed => "lazy value constructed"
  | .trampolineFinished steps deepest =>
    "trampoline finished after " ++ toString steps ++ " steps, deepest continuation stack "
      ++ toString deepest
  | .parseAllStopped offset message =>
    "parse_all stopped at offset " ++ toString offset ++ ": " ++ message
  | .danglingReference offset =>
    "recursive parser reference used at offset " ++ toString offset
      ++ " after its parser was dropped"

def line (record : Record) : String := record.level ++ " " ++ record.text

end Record

/-- What a run does that an observer asked to see. -/
inductive Event where
  | enter (id : String)
  | leave (id : String)
  | build (name : String)
deriving DecidableEq

def Event.line : Event → String
  | .enter id => "enter " ++ id
  | .leave id => "leave " ++ id
  | .build name => "build " ++ name

end SafeDescent
