import SafeDescent.Proofs.Reader.Reading

namespace SafeDescent

namespace TextReader

variable {r r' : TextReader} {above above' below below' : List (List Char)}
  {left left' right right' : List Char}

theorem ahead_eq_cons {c : Char} (h : Reader.first r = some c) :
    r.ahead = c :: (Reader.rest r).ahead := Reader.ahead_eq_cons h

theorem before_rest {c : Char} (h : Reader.first r = some c) :
    (Reader.rest r).before = c :: r.before := by
  obtain ⟨before, ahead, offset, offset_eq⟩ := r
  cases ahead with
  | nil => cases h
  | cons d ahead =>
    cases h
    rfl

theorem offset_rest {c : Char} (h : Reader.first r = some c) :
    (Reader.rest r).offset = c.utf8Size + r.offset := by
  rw [offset_eq, before_rest h, utf8Length_cons, r.offset_eq]

theorem rest_of_first_eq_none (h : Reader.first r = none) : Reader.rest r = r :=
  LawfulReader.rest_of_end r (List.head?_eq_none_iff.mp h)

theorem sourceChars_rest (r : TextReader) : (Reader.rest r).sourceChars = r.sourceChars := by
  cases h : Reader.first r with
  | none => rw [rest_of_first_eq_none h]
  | some c => simp [sourceChars, before_rest h, ahead_eq_cons h]

theorem sourceChars_advance (n : Nat) (r : TextReader) :
    (Reader.advance n r).sourceChars = r.sourceChars := by
  induction n with
  | zero => rfl
  | succ n ih => rw [← Reader.rest_advance, sourceChars_rest, ih]

/-- The characters before a position are those that were read on the way to it. -/
theorem before_advance (s : String) (n : Nat) :
    (Reader.advance n (ofString s)).before = (s.toList.take n).reverse := by
  have source : _ ++ _ = s.toList := sourceChars_advance n (ofString s)
  have ahead : (Reader.advance n (ofString s)).ahead = s.toList.drop n :=
    Reader.ahead_advance n (ofString s)
  rw [ahead] at source
  have read := List.append_cancel_right (source.trans (List.take_append_drop n _).symm)
  rw [← read, List.reverse_reverse]

/-- Reading a newline leads to the first column of the next line, and reading another character to
the next column of the same line. -/
theorem location_rest {c : Char} (h : Reader.first r = some c) :
    ((Reader.rest r).line, (Reader.rest r).column) =
      if c = '\n' then (r.line + 1, 1) else (r.line, r.column + 1) := by
  split
  next hc => simp [line, column, before_rest h, hc]
  next hc => simp [line, column, before_rest h, hc]

/-- The lines of the text around a position: those above it, the two parts of its own line, and those
below it. The lines above count for the offset with their newlines. -/
structure Stands (r : TextReader) (above : List (List Char)) (left right : List Char)
    (below : List (List Char)) : Prop where
  lines : r.sourceChars.splitOn '\n' = above ++ (left ++ right) :: below
  ahead : r.ahead.splitOn '\n' = right :: below
  line : r.line = above.length + 1
  column : r.column = left.length + 1
  offset : r.offset = utf8Length above.flatten + above.length + utf8Length left

theorem stands_ofString (s : String) : ∃ right below, (ofString s).Stands [] [] right below := by
  obtain ⟨right, below, hs⟩ := List.exists_cons_of_ne_nil (List.splitOn_ne_nil '\n' s.toList)
  exact ⟨right, below, hs, hs, rfl, rfl, rfl⟩

/-- Reading a character moves it to the part before the position, or begins the next line. -/
theorem Stands.rest (h : r.Stands above left right below) :
    ∃ above left right below, (Reader.rest r).Stands above left right below := by
  cases hc : Reader.first r with
  | none =>
    rw [rest_of_first_eq_none hc]
    exact ⟨above, left, right, below, h⟩
  | some c =>
    obtain ⟨right', below', cut⟩ :=
      List.exists_cons_of_ne_nil (List.splitOn_ne_nil '\n' (Reader.rest r).ahead)
    have lines := h.lines
    have ahead := h.ahead
    have location := location_rest hc
    have offset := h.offset
    have offset' := offset_rest hc
    rw [← sourceChars_rest] at lines
    rw [ahead_eq_cons hc, List.splitOn_cons_eq_if_modifyHead, cut] at ahead
    by_cases newline : c = '\n'
    · subst newline
      obtain ⟨rfl, rfl⟩ := List.cons.inj ahead
      obtain ⟨line, column⟩ := Prod.mk.inj location
      refine ⟨above ++ [left], [], right', below', ?_, cut, ?_, column, ?_⟩
      · simpa using lines
      · simp [line, h.line]
      · have size : '\n'.utf8Size = 1 := rfl
        simp only [List.flatten_append, List.flatten_singleton, List.length_append,
          List.length_singleton, utf8Length_append, utf8Length_nil]
        omega
    · rw [if_neg (by simpa using newline)] at ahead
      rw [if_neg newline] at location
      obtain ⟨rfl, rfl⟩ := List.cons.inj ahead
      obtain ⟨line, column⟩ := Prod.mk.inj location
      refine ⟨above, left ++ [c], right', below', ?_, cut, ?_, ?_, ?_⟩
      · simpa using lines
      · rw [line, h.line]
      · simp [column, h.column]
      · simp only [utf8Length_append, utf8Length_cons, utf8Length_nil]
        omega

theorem exists_stands (s : String) (n : Nat) : ∃ above left right below,
    (Reader.advance n (ofString s)).Stands above left right below := by
  induction n with
  | zero =>
    obtain ⟨right, below, h⟩ := stands_ofString s
    exact ⟨[], [], right, below, h⟩
  | succ n ih =>
    obtain ⟨above, left, right, below, h⟩ := ih
    rw [← Reader.rest_advance]
    exact h.rest

end TextReader

end SafeDescent
