import SafeDescent.Reader

namespace SafeDescent

/-- The number of bytes that the characters take in UTF-8. -/
def utf8Length (cs : List Char) : Nat := (String.ofList cs).utf8ByteSize

@[simp] theorem utf8Length_nil : utf8Length [] = 0 := rfl

@[simp] theorem utf8Length_cons (c : Char) (cs : List Char) :
    utf8Length (c :: cs) = c.utf8Size + utf8Length cs := by
  simp [utf8Length, String.ofList_cons]

/-- A position in a text: the characters before it, the latest first, and those from it on. The
offset counts the bytes before the position. -/
structure TextReader where
  before : List Char
  ahead : List Char
  offset : Nat
  offset_eq : offset = utf8Length before

namespace TextReader

def ofString (s : String) : TextReader := ⟨[], s.toList, 0, rfl⟩

/-- The position after the next character; at the end it is the same. -/
def rest : TextReader → TextReader
  | ⟨before, [], offset, offset_eq⟩ => ⟨before, [], offset, offset_eq⟩
  | ⟨before, c :: ahead, offset, offset_eq⟩ =>
    ⟨c :: before, ahead, c.utf8Size + offset, by simp [offset_eq]⟩

def sourceChars (r : TextReader) : List Char := r.before.reverse ++ r.ahead

/-- The whole text. -/
def source (r : TextReader) : String := String.ofList r.sourceChars

/-- The text not yet read. -/
def unread (r : TextReader) : String := String.ofList r.ahead

/-- The number of the line, from one. -/
def line (r : TextReader) : Nat := r.before.count '\n' + 1

/-- The number of the character in its line, from one. -/
def column (r : TextReader) : Nat := (r.before.takeWhile (· ≠ '\n')).length + 1

end TextReader

/-- A line of the quoted input around a position. -/
inductive ContextLine where
  | plain (number : Nat) (content : List Char)
  | marked (number : Nat) (content : List Char)
  | pointer (indent : Nat)

namespace ContextLine

/-- What stands before the content of the line that holds the position. -/
def marker (number : Nat) : String := "  > " ++ toString number ++ " | "

def render : ContextLine → String
  | .plain number content => "    " ++ toString number ++ " | " ++ String.ofList content
  | .marked number content => marker number ++ String.ofList content
  | .pointer indent => "".pushn ' ' indent ++ "^--- here"

end ContextLine

namespace TextReader

/-- The line of a given number as it is quoted, with a pointer under the position's column after
the line of the position. -/
def quoteLine (r : TextReader) (number : Nat) (content : List Char) : List ContextLine :=
  if number = r.line then
    [.marked number content, .pointer ((ContextLine.marker number).length + r.column - 1)]
  else [.plain number content]

/-- The line of the position with up to two lines on either side. -/
def contextLines (r : TextReader) : List ContextLine :=
  let line := r.line
  let quoted := ((r.sourceChars.splitOn '\n').zipIdx 1).filter fun (_, number) =>
    line - 2 ≤ number && number ≤ line + 2
  quoted.flatMap fun (content, number) => r.quoteLine number content

def place (r : TextReader) : String := toString r.line ++ ":" ++ toString r.column

def context (r : TextReader) : String :=
  "\n".intercalate (r.contextLines.map ContextLine.render)

instance : Reader TextReader Char where
  first r := r.ahead.head?
  rest := rest
  offset := offset
  place := place
  context := context

instance : LawfulReader TextReader Char where
  ahead := ahead
  first_eq _ := rfl
  ahead_rest r := by
    obtain ⟨before, ahead, offset, offset_eq⟩ := r
    cases ahead <;> rfl
  offset_lt r h := by
    obtain ⟨before, ahead, offset, offset_eq⟩ := r
    cases ahead with
    | nil => exact absurd rfl h
    | cons c ahead =>
      have := Char.utf8Size_pos c
      simp only [Reader.offset, Reader.rest, rest]
      omega
  rest_of_end r h := by
    obtain ⟨before, ahead, offset, offset_eq⟩ := r
    cases ahead with
    | nil => rfl
    | cons c ahead => simp at h

end TextReader

end SafeDescent
