import SafeDescent.Reader

namespace SafeDescent

/-- A parse that did not succeed, detached from its reader. -/
structure ParseError where
  fatal : Bool
  message : String
  place : String
  context : String
  offset : Nat

namespace ParseError

def display (e : ParseError) : String :=
  "[" ++ e.place ++ "] " ++ (if e.fatal then "error" else "failure") ++ ": " ++ e.message

def report (e : ParseError) : String := e.display ++ "\n\n" ++ e.context

/-- The error with a given message at a position. -/
def located {ρ ε : Type} [Reader ρ ε] (fatal : Bool) (message : String) (r : ρ) : ParseError :=
  ⟨fatal, message, Reader.place r, Reader.context r, Reader.offset r⟩

end ParseError

/-- How a parse ended, with the position where it stopped. A failure lets an enclosing choice or
repetition try something else; an error does not. -/
inductive Outcome (ρ α : Type) where
  | success (value : α) (remaining : ρ)
  | failure (message : String) (remaining : ρ)
  | error (message : String) (remaining : ρ)

namespace Outcome

variable {ρ α β γ : Type}

def remaining : Outcome ρ α → ρ
  | .success _ r | .failure _ r | .error _ r => r

def message? : Outcome ρ α → Option String
  | .success _ _ => none
  | .failure message _ | .error message _ => some message

def value? : Outcome ρ α → Option α
  | .success value _ => some value
  | _ => none

def isSuccess : Outcome ρ α → Bool
  | .success _ _ => true
  | _ => false

def map (f : α → β) : Outcome ρ α → Outcome ρ β
  | .success value r => .success (f value) r
  | .failure message r => .failure message r
  | .error message r => .error message r

/-- Goes on after a success; a failure or an error stops, and `next` is not asked. -/
def andThen (outcome : Outcome ρ α) (stop : Outcome ρ β → γ) (next : α → ρ → γ) : γ :=
  match outcome with
  | .success value r => next value r
  | .failure message r => stop (.failure message r)
  | .error message r => stop (.error message r)

/-- Goes on after a failure; a success or an error is settled, and `retry` is not asked. -/
def recover (outcome : Outcome ρ α) (settled : Outcome ρ α → γ) (retry : String → ρ → γ) : γ :=
  match outcome with
  | .failure message r => retry message r
  | outcome => settled outcome

def flatMap (outcome : Outcome ρ α) (next : α → ρ → Outcome ρ β) : Outcome ρ β :=
  outcome.andThen id next

variable {ε : Type} [Reader ρ ε]

/-- What is reported when a failure was followed by an alternative: the alternative's success, or
whichever of the two got further. Neither is further on a tie, and the failure stays. -/
def furthest (message : String) (stopped : ρ) : Outcome ρ α → Outcome ρ α
  | .success value r => .success value r
  | other =>
    if Reader.offset stopped < Reader.offset other.remaining then other
    else .failure message stopped

/-- Falls back to the alternative after a failure. -/
def orElse (outcome : Outcome ρ α) (alternative : Unit → Outcome ρ α) : Outcome ρ α :=
  outcome.recover id fun message r => furthest message r (alternative ())

/-- One line with the place, and for a failure or an error the quoted context. -/
def display (shown : α → String) : Outcome ρ α → String
  | .success value r => "[" ++ Reader.place r ++ "] parsed: " ++ shown value
  | .failure message r =>
    "[" ++ Reader.place r ++ "] failure: " ++ message ++ "\n\n" ++ Reader.context r
  | .error message r =>
    "[" ++ Reader.place r ++ "] error: " ++ message ++ "\n\n" ++ Reader.context r

end Outcome

/-- The value and the position after it, or what went wrong. -/
def Outcome.toExcept {ρ ε α : Type} [Reader ρ ε] : Outcome ρ α → Except ParseError (α × ρ)
  | .success value r => .ok (value, r)
  | .failure message r => .error (.located false message r)
  | .error message r => .error (.located true message r)

end SafeDescent
