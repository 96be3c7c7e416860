namespace SafeDescent

/-- A position in a sequence of elements. Moving on gives a new position and leaves the old one
as it was, so that an alternative can start again where another one started. -/
class Reader (ρ : Type) (ε : outParam Type) where
  /-- The element at the position, if the input does not end there. -/
  first : ρ → Option ε
  /-- The position after the element; at the end it is the same. -/
  rest : ρ → ρ
  /-- How far the position is, for the comparison of two positions in one input. -/
  offset : ρ → Nat
  /-- The short name of the position. -/
  place : ρ → String
  /-- The long description of the position; it may quote the input around it. -/
  context : ρ → String

namespace Reader

variable {ρ ε : Type} [Reader ρ ε]

def atEnd (r : ρ) : Bool := (first r).isNone

/-- The element together with the position after it. -/
def read (r : ρ) : Option (ε × ρ) := (first r).map fun x => (x, rest r)

/-- The position `n` elements further on, or the end. -/
def advance : Nat → ρ → ρ
  | 0, r => r
  | n + 1, r => advance n (rest r)

end Reader

/-- Readers with finitely many elements ahead, whose offset grows with every element. -/
class LawfulReader (ρ : Type) (ε : outParam Type) [Reader ρ ε] where
  ahead : ρ → List ε
  first_eq (r : ρ) : Reader.first r = (ahead r).head?
  ahead_rest (r : ρ) : ahead (Reader.rest r) = (ahead r).tail
  offset_lt (r : ρ) : ahead r ≠ [] → Reader.offset r < Reader.offset (Reader.rest r)
  rest_of_end (r : ρ) : ahead r = [] → Reader.rest r = r

end SafeDescent
