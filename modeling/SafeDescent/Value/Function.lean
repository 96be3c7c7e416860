import SafeDescent.Value.Conversion

namespace SafeDescent.Value

def asText (v : Value) : Value := .text v.toText

def asNumber (v : Value) : Value := .int v.toNumber

def increment (v : Value) : Value := .int (v.toNumber + 1)

def negate (v : Value) : Value := .int (-v.toNumber)

/-- How many parts a value has: the characters of a text, the items of a collection, none for a
unit or a missing value, and one for anything else. -/
def size : Value → Nat
  | .unit | .none => 0
  | .text s => s.length
  | .list vs | .deque vs | .tuple vs => vs.length
  | .mixed es => es.length
  | _ => 1

def count (v : Value) : Value := .int (Int64.ofNat v.size)

def single (v : Value) : Value := .list [v]

def asShown (v : Value) : Value := .text v.shown

/-- The first component of a tuple with at least two; other values stay. -/
def first : Value → Value
  | .tuple (a :: _ :: _) => a
  | v => v

/-- The second component of a tuple with at least two; other values stay. -/
def second : Value → Value
  | .tuple (_ :: b :: _) => b
  | v => v

def pair (a b : Value) : Value := .tuple [a, b]

def swapped (a b : Value) : Value := .tuple [b, a]

def joinTexts (a b : Value) : Value := .text (a.toText ++ b.toText)

def sum (a b : Value) : Value := .int (a.toNumber + b.toNumber)

/-- A tuple with one more component at the end. -/
def extend : Value → Value → Value
  | .tuple vs, v => .tuple (vs ++ [v])
  | a, v => .tuple [a, v]

/-- Applies the operator sign that a separator stands for. An unknown sign keeps the right
operand. -/
def operate (sign a b : Value) : Value :=
  match sign.firstChar with
  | '+' => .int (a.toNumber + b.toNumber)
  | '-' => .int (a.toNumber - b.toNumber)
  | '*' => .int (a.toNumber * b.toNumber)
  | _ => .int b.toNumber

def tripled (s a b : Value) : Value := .tuple [a, s, b]

def bracketed (s a b : Value) : Value :=
  .text ("(" ++ a.toText ++ s.toText ++ b.toText ++ ")")

end SafeDescent.Value
