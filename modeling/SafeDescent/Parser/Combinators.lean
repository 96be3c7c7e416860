import SafeDescent.Parser
import SafeDescent.Sequence.Shape
import SafeDescent.Value.Function

namespace SafeDescent

namespace Parser

variable {ε : Type}

def succeed (value : Value) : Parser ε := .primitive (.succeed value)

def fail (message : String) : Parser ε := .primitive (.fail message)

def fatal (message : String) : Parser ε := .primitive (.fatal message)

def any : Parser ε := .primitive .any

def satisfy (accepts : ε → Bool) (expected : String) : Parser ε :=
  .primitive (.satisfy accepts expected)

def endOfInput : Parser ε := .primitive .endOfInput

/-- One given element. -/
def element [Element ε] [DecidableEq ε] (x : ε) : Parser ε :=
  satisfy (fun y => decide (y = x)) (Element.shown x)

/-- The element that a value is. A value that is no element matches nothing. -/
def exactly [Element ε] [DecidableEq ε] (v : Value) : Parser ε :=
  match Element.ofValue? v with
  | some x => element x
  | none => satisfy (fun _ => false) v.shown

/-- Both values in a tuple. -/
def seq (a b : Parser ε) : Parser ε := .sequence Value.pair a b

def keepLeft (a b : Parser ε) : Parser ε := .sequence (fun x _ => x) a b

def keepRight (a b : Parser ε) : Parser ε := .sequence (fun _ y => y) a b

/-- All values in one tuple. -/
def tuple (a b : Parser ε) (more : List (Parser ε)) : Parser ε :=
  more.foldl (.sequence Value.extend) (seq a b)

def append (shape : Shape) (a b : Parser ε) : Parser ε := .sequence shape.append a b

def prepend (shape : Shape) (a b : Parser ε) : Parser ε := .sequence shape.prepend a b

def concat (shape : Shape) (a b : Parser ε) : Parser ε := .sequence shape.concat a b

def collect (shape : Shape) (a b : Parser ε) : Parser ε := .sequence shape.collect a b

/-- A mixed sequence without entries; it reads nothing. -/
def emptyMixed : Parser ε := succeed (.mixed [])

/-- A mixed sequence, and then one more entry after its entries. -/
def appendMixed (s : Parser ε) (as : Stored) (p : Parser ε) : Parser ε :=
  .sequence (fun es v => .mixed (es.entries.append (v.store as))) s p

/-- One more entry, and then the mixed sequence that it goes before. -/
def prependMixed (as : Stored) (p s : Parser ε) : Parser ε :=
  .sequence (fun v es => .mixed (es.entries.prepend (v.store as))) p s

def concatMixed (s t : Parser ε) : Parser ε :=
  .sequence (fun es fs => .mixed (es.entries.concat fs.entries)) s t

/-- The alternatives from the left, each tried when those before it failed. -/
def oneOf (first : Parser ε) (more : List (Parser ε)) : Parser ε := more.foldl .choice first

def map (f : Value → Value) (p : Parser ε) : Parser ε := .adjust (.map f) p

def const (value : Value) (p : Parser ε) : Parser ε := p.map fun _ => value

def optional (p : Parser ε) : Parser ε := .adjust .optional p

def negate (p : Parser ε) : Parser ε := .adjust .negate p

def guard (p : Parser ε) : Parser ε := .adjust .guard p

def commit (p : Parser ε) : Parser ε := .adjust .commit p

def failureMessage (message : String) (p : Parser ε) : Parser ε :=
  .adjust (.failureMessage message) p

def errorMessage (message : String) (p : Parser ε) : Parser ε := .adjust (.errorMessage message) p

def phrase (p : Parser ε) : Parser ε := .adjust .phrase p

def spanned (p : Parser ε) : Parser ε := .adjust .spanned p

/-- At least `min` times, and at most `max` times if that is given. -/
def repeated (min : Nat) (max : Option Nat) (p : Parser ε) : Parser ε :=
  .many (.between min max) p

/-- The combination of the values of a list of two. -/
def joinPair (combine : Value → Value → Value) : Value → Value
  | .list [first, second] => combine first second
  | v => v

/-- Runs one parser two times in a row, as a repetition of two rounds. So the parser is held until the
second time is over. -/
def twice (combine : Value → Value → Value) (p : Parser ε) : Parser ε :=
  map (joinPair combine) (repeated 2 (some 2) p)

/-- At least `min` operands, and at most `max` if that is given, with separators between them. -/
def chainLeft (join : Value → Value → Value → Value) (min : Nat) (max : Option Nat)
    (operand separator : Parser ε) : Parser ε :=
  .chain join (.between min max) operand separator

/-- As many elements as a value says; none if it is negative. -/
def countedBy (v : Value) : Parser ε :=
  let n := v.toNumber.toInt.toNat
  repeated n (some n) any

/-- The element that is the number of a value. -/
def numbered (v : Value) : Parser Int64 := element v.toNumber

def rejecting (v : Value) : Parser ε := fatal ("rejected " ++ v.shown)

/-- The place of the first of the keys that is the value's text, or the number of keys. -/
def keyIndex (keys : List String) (v : Value) : Nat :=
  let text := v.toText
  keys.findIdx fun key => key == text

/-- Goes on with the parser whose key is the text of the value, or with the default where there is
none. -/
def byText (body : Parser ε) (cases : List (String × Parser ε)) (default : Parser ε) : Parser ε :=
  .select body (keyIndex (cases.map Prod.fst)) fun i => (cases.map Prod.snd).getD i default

end Parser

end SafeDescent
