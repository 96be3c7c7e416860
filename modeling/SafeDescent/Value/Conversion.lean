import SafeDescent.Value

namespace SafeDescent

namespace Value

/-- The first character of a value's text; a question mark when there is none. -/
def firstChar (v : Value) : Char := v.toText.toList.headD '?'

/-- The ASCII digits of a text read as one decimal number, whatever stands between them. A text
that begins with a minus sign gives the negative number. -/
def readDigits (s : String) : Int64 :=
  let magnitude := s.foldl (fun n c => if c.isDigit then n * 10 + Int64.ofNat (c.toNat - 48) else n) 0
  if s.toList.head? = Option.some '-' then -magnitude else magnitude

/-- The number that a value stands for: its own, or the digits of its text. -/
def toNumber : Value → Int64
  | .int n => n
  | .token (.num n) => n
  | .some v => v.toNumber
  | v => readDigits v.toText

/-- The items of a list or deque; any other value is its own only item. -/
def items : Value → List Value
  | .list vs => vs
  | .deque vs => vs
  | v => [v]

/-- The entries of a mixed sequence; other values have none. -/
def entries : Value → Mixed Value
  | .mixed es => es
  | _ => []

/-- The entry that stores a value at a type, converted to it. -/
def store : Stored → Value → Entry Value
  | .char, v => ⟨.char, .char v.firstChar⟩
  | .int, v => ⟨.int, .int v.toNumber⟩
  | .text, v => ⟨.text, .text v.toText⟩
  | .value, v => ⟨.value, v⟩

/-- The value that an entry was stored as. -/
def ofEntry (entry : Entry Value) : Value := entry.content

end Value

namespace Entry

def char (c : Char) : Entry Value := ⟨.char, .char c⟩

def text (s : String) : Entry Value := ⟨.text, .text s⟩

/-- An entry that was stored as a value, without regard to its type. -/
@[match_pattern] def value (v : Value) : Entry Value := ⟨.value, v⟩

end Entry

end SafeDescent
