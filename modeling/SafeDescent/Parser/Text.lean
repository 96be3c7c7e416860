import SafeDescent.Parser.Combinators
import SafeDescent.Text.Alphabetic

namespace SafeDescent

namespace Parser

def character (c : Char) : Parser Char := element c

/-- One ASCII digit. -/
def digit : Parser Char := satisfy Char.isDigit "digit"

def letter : Parser Char := satisfy Text.isAlphabetic "letter"

def blank : Parser Char := satisfy Text.isBlank "whitespace"

/-- The characters of a text, one after the other. -/
def literal (s : String) : Parser Char := .primitive (.literal s.toList)

/-- The text of a value once more. -/
def sameText (v : Value) : Parser Char := literal v.toText

end Parser

namespace Text

def isIn (s : String) (c : Char) : Bool := s.toList.contains c

/-- The characters from one to another, both included. -/
def isBetween (first last c : Char) : Bool := first ≤ c && c ≤ last

end Text

end SafeDescent
