import SafeDescent.Element

namespace SafeDescent

namespace Value

/-- The characters that a value contains, from left to right. -/
def chars (v : Value) : List Char := v.toText.toList

/-- The characters that an entry of a mixed sequence contains. -/
def entryChars (entry : Entry Value) : List Char := entry.content.chars

mutual

theorem toList_writeText (v : Value) (written : String) :
    (v.writeText written).toList = written.toList ++ v.chars := by
  cases v with
  | unit => simp [chars, toText, writeText]
  | none => simp [chars, toText, writeText]
  | some v => simpa [chars, toText, writeText] using toList_writeText v written
  | int n => simp [chars, toText, writeText]
  | char c => simp [chars, toText, writeText]
  | text s => simp [chars, toText, writeText]
  | list vs => simp [chars, toText, writeText, toList_writeTexts vs]
  | deque vs => simp [chars, toText, writeText, toList_writeTexts vs]
  | tuple vs => simp [chars, toText, writeText, toList_writeTexts vs]
  | span s => simp [chars, toText, writeText]
  | token t => cases t <;> simp [chars, toText, writeText]
  | mixed entries => simp [chars, toText, writeText, toList_writeEntries entries]

theorem toList_writeTexts (vs : List Value) (written : String) :
    (writeTexts vs written).toList = written.toList ++ vs.flatMap chars := by
  cases vs with
  | nil => simp [writeTexts]
  | cons v vs => simp [writeTexts, toList_writeTexts vs, toList_writeText v]

theorem toList_writeEntries (entries : List (Entry Value)) (written : String) :
    (writeEntries entries written).toList = written.toList ++ entries.flatMap entryChars := by
  cases entries with
  | nil => simp [writeEntries]
  | cons entry entries =>
    obtain ⟨as, v⟩ := entry
    simp [writeEntries, entryChars, toList_writeEntries entries, toList_writeText v]

end

@[simp] theorem chars_char (c : Char) : chars (.char c) = [c] := by
  simp [chars, toText, writeText]

@[simp] theorem chars_text (s : String) : chars (.text s) = s.toList := by
  simp [chars, toText, writeText]

@[simp] theorem chars_list (vs : List Value) : chars (.list vs) = vs.flatMap chars := by
  simp [chars, toText, writeText, toList_writeTexts]

@[simp] theorem chars_deque (vs : List Value) : chars (.deque vs) = vs.flatMap chars := by
  simp [chars, toText, writeText, toList_writeTexts]

@[simp] theorem chars_tuple (vs : List Value) : chars (.tuple vs) = vs.flatMap chars := by
  simp [chars, toText, writeText, toList_writeTexts]

@[simp] theorem chars_mixed (entries : List (Entry Value)) :
    chars (.mixed entries) = entries.flatMap entryChars := by
  simp [chars, toText, writeText, toList_writeEntries]

@[simp] theorem toList_toText (v : Value) : v.toText.toList = v.chars := rfl

/-- The items of a value contain what the value contains. -/
@[simp] theorem flatMap_items (v : Value) : v.items.flatMap chars = v.chars := by
  cases v <;> simp [items]

theorem singleton_firstChar {v : Value} (h : v.chars.length = 1) : [v.firstChar] = v.chars := by
  obtain ⟨c, hc⟩ := List.length_eq_one_iff.mp h
  simp [firstChar, hc]

end Value

/-- Elements written side by side are their characters. -/
theorem Element.toList_joined (cs : List Char) : (Element.joined cs).toList = cs := by
  have written : ∀ (cs : List Char) (s : String),
      (cs.foldl (fun s c => (Element.toValue c).writeText s) s).toList = s.toList ++ cs := by
    intro cs
    induction cs with
    | nil => simp
    | cons c cs ih =>
      intro s
      rw [List.foldl_cons, ih]
      simp [Element.toValue, Value.writeText]
  simpa [Element.joined] using written cs ""

end SafeDescent
