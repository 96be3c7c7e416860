namespace SafeDescent

/-- The offsets from `start` up to but without `stop`. -/
structure Span where
  start : Nat
  stop : Nat
deriving DecidableEq

namespace Span

def isEmpty (span : Span) : Bool := span.start == span.stop

/-- The number of offsets covered. A span that ends before it starts has no length. -/
def length? (span : Span) : Option Nat :=
  if span.stop < span.start then none else some (span.stop - span.start)

/-- The characters after the first `bytes` bytes, if a character ends there. -/
def dropBytes? : List Char → Nat → Option (List Char)
  | cs, 0 => some cs
  | [], _ + 1 => none
  | c :: cs, bytes + 1 =>
    if c.utf8Size ≤ bytes + 1 then dropBytes? cs (bytes + 1 - c.utf8Size) else none

/-- The characters up to the first `bytes` bytes, if a character ends there. -/
def takeBytes? : List Char → Nat → Option (List Char)
  | _, 0 => some []
  | [], _ + 1 => none
  | c :: cs, bytes + 1 =>
    if c.utf8Size ≤ bytes + 1 then (takeBytes? cs (bytes + 1 - c.utf8Size)).map (c :: ·) else none

/-- The covered part of a text whose offsets count bytes. There is none when an end lies outside
the text or inside a character, or when the ends are in the wrong order. -/
def slice? (span : Span) (source : String) : Option String :=
  if span.stop < span.start then none
  else
    (dropBytes? source.toList span.start).bind fun rest =>
      (takeBytes? rest (span.stop - span.start)).map String.ofList

end Span

end SafeDescent
