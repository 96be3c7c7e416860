import SafeDescent.Value.Conversion

namespace SafeDescent

/-- What a reader hands out. Every element is a value, and such a value gives the element back. -/
class Element (ε : Type) where
  toValue : ε → Value
  ofValue? : Value → Option ε
  ofValue?_toValue (x : ε) : ofValue? (toValue x) = some x

namespace Element

instance : Element Char where
  toValue := .char
  ofValue?
    | .char c => some c
    | _ => none
  ofValue?_toValue _ := rfl

instance : Element Token where
  toValue := .token
  ofValue?
    | .token t => some t
    | _ => none
  ofValue?_toValue _ := rfl

instance : Element Int64 where
  toValue := .int
  ofValue?
    | .int n => some n
    | _ => none
  ofValue?_toValue _ := rfl

variable {ε : Type} [Element ε]

/-- An element in the notation of the diagnostics. -/
def shown (x : ε) : String := (toValue x).shown

/-- An element without quotes. -/
def plain (x : ε) : String := (toValue x).toText

/-- The elements side by side. -/
def joined (xs : List ε) : String := xs.foldl (fun written x => (toValue x).writeText written) ""

end Element

end SafeDescent
