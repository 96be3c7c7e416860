import SafeDescent.Proofs.Value.Characters
import SafeDescent.Sequence.Shape

namespace SafeDescent.Shape

/-- The elements of a value that goes into a collection as a sequence. -/
def elements : Shape → Value → List Value
  | .list, v | .deque, v => v.items
  | .text, v => v.chars.map .char

/-- The element that a value goes into a collection as. -/
def single : Shape → Value → List Value
  | .list, v | .deque, v => [v]
  | .text, v => [.char v.firstChar]

/-- The collection of given elements. -/
def ofElements : Shape → List Value → Value
  | .list, vs => .list vs
  | .deque, vs => .deque vs
  | .text, vs => .text (String.ofList (vs.map Value.firstChar))

/-- An item of a collection as a value. -/
def ofItem : (shape : Shape) → shape.Item → Value
  | .list, v | .deque, v => v
  | .text, c => .char c

/-- The items of a collection as values. -/
def listed (shape : Shape) (s : shape.Collection) : List Value :=
  (LawfulGrowing.toList s).map shape.ofItem

variable (shape : Shape) (a b v : Value) (s t : shape.Collection)

theorem elements_value : shape.elements (shape.value s) = shape.listed s := by
  cases shape with
  | list | deque => exact (List.map_id _).symm
  | text => exact congrArg (List.map Value.char) (Value.chars_text s)

theorem listed_collection : shape.listed (shape.collection v) = shape.elements v := by
  cases shape with
  | list | deque => exact List.map_id _
  | text => rfl

theorem ofItem_item : [shape.ofItem (shape.item v)] = shape.single v := by
  cases shape <;> rfl

theorem listed_append (x : shape.Item) :
    shape.listed (Growing.append s x) = shape.listed s ++ [shape.ofItem x] := by
  rw [listed, LawfulGrowing.toList_append, List.map_append]
  rfl

theorem listed_prepend (x : shape.Item) :
    shape.listed (Growing.prepend s x) = shape.ofItem x :: shape.listed s := by
  rw [listed, LawfulGrowing.toList_prepend, List.map_cons]
  rfl

theorem listed_concat : shape.listed (Growing.concat s t) = shape.listed s ++ shape.listed t := by
  rw [listed, LawfulGrowing.toList_concat, List.map_append]
  rfl

theorem listed_pair (x y : shape.Item) :
    shape.listed (Growing.pair x y) = [shape.ofItem x, shape.ofItem y] := by
  rw [Growing.pair, listed_append, listed_append, listed, LawfulGrowing.toList_empty]
  rfl

theorem elements_append :
    shape.elements (shape.append a b) = shape.elements a ++ shape.single b := by
  rw [append, elements_value, listed_append, listed_collection, ofItem_item]

theorem elements_prepend :
    shape.elements (shape.prepend a b) = shape.single a ++ shape.elements b := by
  rw [prepend, elements_value, listed_prepend, listed_collection, ← ofItem_item]
  rfl

theorem elements_concat :
    shape.elements (shape.concat a b) = shape.elements a ++ shape.elements b := by
  rw [concat, elements_value, listed_concat, listed_collection, listed_collection]

theorem elements_collect :
    shape.elements (shape.collect a b) = shape.single a ++ shape.single b := by
  rw [collect, elements_value, listed_pair, ← ofItem_item, ← ofItem_item]
  rfl

/-- A value that is a collection of the shape. -/
def Holds (shape : Shape) (v : Value) : Prop := shape.ofElements (shape.elements v) = v

theorem holds_value : shape.Holds (shape.value s) := by
  rw [Holds, elements_value]
  cases shape with
  | list | deque => exact congrArg _ (List.map_id _)
  | text =>
    have letter (c : Char) : (Value.char c).firstChar = c := by
      simp [Value.firstChar]
    have letters : ((String.toList s).map Value.char).map Value.firstChar = String.toList s := by
      simp [letter, Function.comp_def]
    exact congrArg Value.text ((congrArg String.ofList letters).trans String.ofList_toList)

/-- The elements of a value contain what the value contains. -/
theorem flatMap_elements : (shape.elements v).flatMap Value.chars = v.chars := by
  cases shape with
  | list | deque => exact v.flatMap_items
  | text => simp [elements, List.flatMap_map]

end SafeDescent.Shape
