import SafeDescent.Sequence
import SafeDescent.Span
import SafeDescent.Text.Quoted

namespace SafeDescent

/-- A unit of input that a scanner has already cut out of a text. -/
inductive Token where
  | num (n : Int64)
  | ident (name : String)
  | sym (c : Char)
deriving DecidableEq

namespace Token

def isNum : Token → Bool
  | .num _ => true
  | _ => false

def isIdent : Token → Bool
  | .ident _ => true
  | _ => false

def isSym : Token → Bool
  | .sym _ => true
  | _ => false

end Token

/-- What parsers yield. -/
inductive Value where
  | unit
  | none
  | some (v : Value)
  | int (n : Int64)
  | char (c : Char)
  | text (s : String)
  | list (vs : List Value)
  | deque (vs : List Value)
  | tuple (vs : List Value)
  | span (s : Span)
  | token (t : Token)
  | mixed (entries : List (Entry Value))

namespace Value

def decimal (n : Int64) : String := toString n.toInt

mutual

/-- Writes the characters of a value in order after a text. Units and missing values write
nothing, and a collection writes its items. -/
def writeText : Value → String → String
  | .unit, written => written
  | .none, written => written
  | .some v, written => writeText v written
  | .int n, written => written ++ decimal n
  | .char c, written => written.push c
  | .text s, written => written ++ s
  | .list vs, written => writeTexts vs written
  | .deque vs, written => writeTexts vs written
  | .tuple vs, written => writeTexts vs written
  | .span s, written => written ++ toString s.start ++ ".." ++ toString s.stop
  | .token (.num n), written => written ++ decimal n
  | .token (.ident name), written => written ++ name
  | .token (.sym c), written => written.push c
  | .mixed entries, written => writeEntries entries written

def writeTexts : List Value → String → String
  | [], written => written
  | v :: vs, written => writeTexts vs (writeText v written)

def writeEntries : List (Entry Value) → String → String
  | [], written => written
  | ⟨_, v⟩ :: entries, written => writeEntries entries (writeText v written)

end

/-- The characters of a value in order. -/
def toText (v : Value) : String := v.writeText ""

mutual

/-- Writes a value in the notation of the diagnostics after a text. -/
def writeShown : Value → String → String
  | .unit, written => written ++ "()"
  | .none, written => written ++ "None"
  | .some v, written => writeShown v (written ++ "Some(") ++ ")"
  | .int n, written => written ++ decimal n
  | .char c, written => written ++ Text.quoteChar c
  | .text s, written => written ++ Text.quoteText s
  | .list vs, written => writeItems vs (written ++ "[") ++ "]"
  | .deque vs, written => writeItems vs (written ++ "[") ++ "]"
  | .tuple [v], written => writeShown v (written ++ "(") ++ ",)"
  | .tuple vs, written => writeItems vs (written ++ "(") ++ ")"
  | .span s, written =>
    written ++ "Span \x7b start: " ++ toString s.start ++ ", end: " ++ toString s.stop ++ " \x7d"
  | .token (.num n), written => written ++ "Num(" ++ decimal n ++ ")"
  | .token (.ident name), written => written ++ "Ident(" ++ Text.quoteText name ++ ")"
  | .token (.sym c), written => written ++ "Sym(" ++ Text.quoteChar c ++ ")"
  | .mixed entries, written =>
    written ++ "AnySequence \x7b len: " ++ toString entries.length ++ " \x7d"

/-- Items with a comma and a blank between them. -/
def writeItems : List Value → String → String
  | [], written => written
  | v :: vs, written => writeFurther vs (writeShown v written)

def writeFurther : List Value → String → String
  | [], written => written
  | v :: vs, written => writeFurther vs (writeShown v (written ++ ", "))

end

/-- A value in the notation of the diagnostics. -/
def shown (v : Value) : String := v.writeShown ""

end Value

end SafeDescent
