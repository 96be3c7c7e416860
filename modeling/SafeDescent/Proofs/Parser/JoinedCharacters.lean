import SafeDescent.Proofs.Value.Collections
import SafeDescent.Value.Function

namespace SafeDescent

/-- What is known of the values of a parser. -/
inductive Yield where
  | anything
  /-- A single character. -/
  | character
  /-- A mixed sequence. -/
  | mixed

namespace Yield

/-- What is known in one place is enough for another. -/
def Fits (known wanted : Yield) : Prop := wanted = known ∨ wanted = .anything

theorem fits_self (y : Yield) : y.Fits y := .inl rfl

theorem Fits.trans {y₁ y₂ y₃ : Yield} (h : y₁.Fits y₂) (h' : y₂.Fits y₃) : y₁.Fits y₃ := by
  rcases h' with rfl | rfl
  · exact h
  · exact .inr rfl

end Yield

namespace Value

def Has : Yield → Value → Prop
  | .anything, _ => True
  | .character, v => v.chars.length = 1
  | .mixed, v => ∃ entries, v = .mixed entries

theorem has_anything (v : Value) : v.Has .anything := trivial

theorem Has.fits {known wanted : Yield} {v : Value} (h : v.Has known) (fits : known.Fits wanted) :
    v.Has wanted := by
  rcases fits with rfl | rfl
  · exact h
  · trivial

end Value

/-- A value that is stored at the type keeps its characters. -/
def Stored.Keeps : Stored → Yield → Prop
  | .char, y => y = .character
  | .int, _ => False
  | .text, _ => True
  | .value, _ => True

/-- What the elements of a collection have to be. -/
def Shape.element : Shape → Yield
  | .text => .character
  | .list => .anything
  | .deque => .anything

/-- The combination has the characters of the first value and then those of the second one, for
values of which the first two yields are known. The third is known of the result. -/
inductive Joins : (Value → Value → Value) → Yield → Yield → Yield → Prop
  | pair : Joins Value.pair .anything .anything .anything
  | extend : Joins Value.extend .anything .anything .anything
  | append (shape : Shape) : Joins shape.append .anything shape.element .anything
  | prepend (shape : Shape) : Joins shape.prepend shape.element .anything .anything
  | concat (shape : Shape) : Joins shape.concat .anything .anything .anything
  | collect (shape : Shape) : Joins shape.collect shape.element shape.element .anything
  | appendMixed {as : Stored} {y : Yield} : as.Keeps y →
      Joins (fun es v => .mixed (es.entries.append (v.store as))) .mixed y .mixed
  | prependMixed {as : Stored} {y : Yield} : as.Keeps y →
      Joins (fun v es => .mixed (es.entries.prepend (v.store as))) y .mixed .mixed
  | concatMixed : Joins (fun es fs => .mixed (es.entries.concat fs.entries)) .mixed .mixed .mixed

namespace Value

theorem entryChars_store {as : Stored} {y : Yield} (keeps : as.Keeps y) {v : Value} (h : v.Has y) :
    entryChars (v.store as) = v.chars := by
  cases as with
  | char =>
    obtain rfl : y = .character := keeps
    simp [store, entryChars, singleton_firstChar h]
  | int => exact keeps.elim
  | text => simp [store, entryChars]
  | value => rfl

end Value

/-- What goes into a collection as an element keeps its characters. -/
theorem Shape.flatMap_single (shape : Shape) {v : Value} (h : v.Has shape.element) :
    (shape.single v).flatMap Value.chars = v.chars := by
  cases shape with
  | list | deque => exact List.append_nil _
  | text => simp [single, Value.singleton_firstChar h]

theorem Joins.chars_eq {combine : Value → Value → Value} {y₁ y₂ y : Yield}
    (joins : Joins combine y₁ y₂ y) {a b : Value} (ha : a.Has y₁) (hb : b.Has y₂) :
    (combine a b).chars = a.chars ++ b.chars := by
  cases joins with
  | pair => simp [Value.pair]
  | extend => cases a <;> simp [Value.extend]
  | append shape =>
    rw [← shape.flatMap_elements, shape.elements_append, List.flatMap_append, shape.flatMap_elements,
      shape.flatMap_single hb]
  | prepend shape =>
    rw [← shape.flatMap_elements, shape.elements_prepend, List.flatMap_append, shape.flatMap_elements,
      shape.flatMap_single ha]
  | concat shape =>
    rw [← shape.flatMap_elements, shape.elements_concat, List.flatMap_append, shape.flatMap_elements,
      shape.flatMap_elements]
  | collect shape =>
    rw [← shape.flatMap_elements, shape.elements_collect, List.flatMap_append,
      shape.flatMap_single ha, shape.flatMap_single hb]
  | appendMixed keeps =>
    obtain ⟨entries, rfl⟩ := ha
    simp [Value.entries, Mixed.append, Value.entryChars_store keeps hb]
  | prependMixed keeps =>
    obtain ⟨entries, rfl⟩ := hb
    simp [Value.entries, Mixed.prepend, Value.entryChars_store keeps ha]
  | concatMixed =>
    obtain ⟨entries, rfl⟩ := ha
    obtain ⟨others, rfl⟩ := hb
    simp [Value.entries, Mixed.concat]

theorem Joins.has {combine : Value → Value → Value} {y₁ y₂ y : Yield}
    (joins : Joins combine y₁ y₂ y) (a b : Value) : (combine a b).Has y := by
  cases joins with
  | pair | extend | append | prepend | concat | collect => trivial
  | appendMixed | prependMixed | concatMixed => exact ⟨_, rfl⟩

end SafeDescent
