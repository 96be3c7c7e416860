import SafeDescent.Value.Conversion

namespace SafeDescent

/-- The collections into which the values of a sequence can go. -/
inductive Shape where
  | list
  | deque
  | text
deriving DecidableEq

namespace Shape

/-- The collections of a shape. -/
def Collection : Shape → Type
  | .list => List Value
  | .deque => Deque Value
  | .text => String

/-- What a collection of the shape grows by. -/
def Item : Shape → Type
  | .list | .deque => Value
  | .text => Char

instance : (shape : Shape) → Growing shape.Collection shape.Item
  | .list => (inferInstance : Growing (List Value) Value)
  | .deque => (inferInstance : Growing (Deque Value) Value)
  | .text => (inferInstance : Growing String Char)

instance : (shape : Shape) → LawfulGrowing shape.Collection shape.Item
  | .list => (inferInstance : LawfulGrowing (List Value) Value)
  | .deque => (inferInstance : LawfulGrowing (Deque Value) Value)
  | .text => (inferInstance : LawfulGrowing String Char)

/-- The collection that a value stands for. -/
def collection : (shape : Shape) → Value → shape.Collection
  | .list, v => v.items
  | .deque, v => Deque.mk v.items
  | .text, v => v.toText

/-- The item that a value goes into a collection as. -/
def item : (shape : Shape) → Value → shape.Item
  | .list, v | .deque, v => v
  | .text, v => v.firstChar

/-- A collection as a value. -/
def value : (shape : Shape) → shape.Collection → Value
  | .list, vs => .list vs
  | .deque, vs => .deque (Deque.items vs)
  | .text, s => .text s

variable (shape : Shape) (a b : Value)

/-- A sequence and an element after it. -/
def append : Value := shape.value (Growing.append (shape.collection a) (shape.item b))

/-- A sequence and an element before it. -/
def prepend : Value := shape.value (Growing.prepend (shape.collection b) (shape.item a))

/-- Two sequences. -/
def concat : Value := shape.value (Growing.concat (shape.collection a) (shape.collection b))

/-- Two elements. -/
def collect : Value := shape.value (Growing.pair (shape.item a) (shape.item b))

end Shape

end SafeDescent
