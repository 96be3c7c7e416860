import SafeDescent.Element
import SafeDescent.Outcome

namespace SafeDescent

/-- Why the input at a position does not fit. -/
inductive Mismatch (ε : Type) where
  /-- Any element would do, and there is none. -/
  | nothingAhead
  /-- An element of the kind that `expected` names is missing. -/
  | missing (expected : String) (found : Option ε)
  /-- An element of a literal is missing. -/
  | missingIn (literal : List ε) (expected : ε) (found : Option ε)
  /-- The input should end here. -/
  | notAtEnd (found : Option ε)

/-- The text of a mismatch names what was found, or says that the input ended. -/
def Mismatch.message {ε : Type} [Element ε] : Mismatch ε → String
  | .nothingAhead => "unexpected end of input"
  | .missing expected (some x) => "expected " ++ expected ++ ", found " ++ Element.shown x
  | .missing expected none => "expected " ++ expected ++ ", but reached end of input"
  | .missingIn literal expected (some x) =>
    "expected '" ++ Element.plain expected ++ "', found '" ++ Element.plain x
      ++ "' while matching '" ++ Element.joined literal ++ "'"
  | .missingIn literal expected none =>
    "expected '" ++ Element.plain expected ++ "', but reached end of input while matching '"
      ++ Element.joined literal ++ "'"
  | .notAtEnd (some x) => "expected end of input, found " ++ Element.shown x
  | .notAtEnd none => "expected end of input"

/-- Parsers that run no other parser. -/
inductive Primitive (ε : Type) where
  | succeed (value : Value)
  | fail (message : String)
  | fatal (message : String)
  | any
  | satisfy (accepts : ε → Bool) (expected : String)
  | literal (expected : List ε)
  | endOfInput

section

variable {ρ ε : Type} [Reader ρ ε] [Element ε]

/-- The failure that a mismatch at a position amounts to. -/
def Outcome.mismatch {α : Type} (reason : Mismatch ε) (r : ρ) : Outcome ρ α :=
  .failure reason.message r

/-- A success that leaves input unread becomes a failure at the first unread element. -/
def Outcome.requireEnd {α : Type} : Outcome ρ α → Outcome ρ α
  | .success value r =>
    if Reader.atEnd r then .success value r else .mismatch (.notAtEnd (Reader.first r)) r
  | outcome => outcome

variable [DecidableEq ε]

/-- Reads the elements of `rest` one by one, and stops at the first that differs. -/
def matchLiteral (literal : List ε) : List ε → ρ → Outcome ρ Value
  | [], r => .success (.text (Element.joined literal)) r
  | expected :: rest, r =>
    match Reader.read r with
    | some (x, next) =>
      if x = expected then matchLiteral literal rest next
      else .mismatch (.missingIn literal expected (some x)) r
    | none => .mismatch (.missingIn literal expected none) r

namespace Primitive

def run : Primitive ε → ρ → Outcome ρ Value
  | .succeed value, r => .success value r
  | .fail message, r => .failure message r
  | .fatal message, r => .error message r
  | .any, r =>
    match Reader.read r with
    | some (x, next) => .success (Element.toValue x) next
    | none => .mismatch (.nothingAhead : Mismatch ε) r
  | .satisfy accepts expected, r =>
    match Reader.read r with
    | some (x, next) =>
      if accepts x then .success (Element.toValue x) next
      else .mismatch (.missing expected (some x)) r
    | none => .mismatch (.missing expected none : Mismatch ε) r
  | .literal expected, r => matchLiteral expected expected r
  | .endOfInput, r =>
    if Reader.atEnd r then .success .unit r else .mismatch (.notAtEnd (Reader.first r)) r

end Primitive

end

end SafeDescent
