import SafeDescent.Reader

namespace SafeDescent

/-- A position in the integers from a start up to but without `stop`. -/
structure RangeReader where
  next : Int64
  stop : Int64
  consumed : Nat

namespace RangeReader

def ofBounds (start stop : Int64) : RangeReader := ⟨start, stop, 0⟩

/-- The integer at the position, or the bound at the end. -/
def label (r : RangeReader) : Int64 := if r.next < r.stop then r.next else r.stop

def place (r : RangeReader) : String := "#" ++ toString r.label.toInt

instance : Reader RangeReader Int64 where
  first r := if r.next < r.stop then some r.next else none
  rest r := if r.next < r.stop then ⟨r.next + 1, r.stop, r.consumed + 1⟩ else r
  offset := consumed
  place := place
  context := place

/-- The integers with a given remainder, which is never negative. -/
def hasResidue (modulus residue n : Int64) : Bool :=
  n.toInt % modulus.toInt == residue.toInt

end RangeReader

end SafeDescent
