import SafeDescent.Proofs.Reader.StandingLines

namespace SafeDescent

namespace TextReader

variable {r r' : TextReader} {above above' below below' : List (List Char)}
  {left left' right right' : List Char}

/-- Two positions in one line of a text have the same lines around theirs. -/
theorem Stands.eq_of_line_eq (h : r.Stands above left right below)
    (h' : r'.Stands above' left' right' below') (source : r.sourceChars = r'.sourceChars)
    (line : r.line = r'.line) : above = above' ∧ left ++ right = left' ++ right' := by
  have lines := h.lines.symm.trans (source ▸ h'.lines)
  rw [h.line, h'.line] at line
  obtain ⟨same, own⟩ := List.append_inj lines (Nat.succ.inj line)
  exact ⟨same, (List.cons.inj own).1⟩

theorem Stands.offset_eq_of_location_eq (h : r.Stands above left right below)
    (h' : r'.Stands above' left' right' below') (source : r.sourceChars = r'.sourceChars)
    (line : r.line = r'.line) (column : r.column = r'.column) : r.offset = r'.offset := by
  obtain ⟨rfl, own⟩ := h.eq_of_line_eq h' source line
  rw [h.column, h'.column] at column
  obtain ⟨rfl, -⟩ := List.append_inj own (Nat.succ.inj column)
  rw [h.offset, h'.offset]

/-- The whole line of a position stands above a position in a later line. -/
theorem Stands.offset_lt_of_line_lt (h : r.Stands above left right below)
    (h' : r'.Stands above' left' right' below') (source : r.sourceChars = r'.sourceChars)
    (later : r.line < r'.line) : r.offset < r'.offset := by
  have lines := h.lines.symm.trans (source ▸ h'.lines)
  rw [h.line, h'.line] at later
  rw [h.offset, h'.offset]
  obtain ⟨more, rfl, own⟩ | ⟨more, rfl, -⟩ := List.append_eq_append_iff.mp lines
  · cases more with
    | nil => simp at later
    | cons piece more =>
      obtain ⟨rfl, -⟩ := List.cons.inj own
      simp only [List.flatten_append, List.flatten_cons, List.length_append, List.length_cons,
        utf8Length_append]
      omega
  · rw [List.length_append] at later
    omega

theorem Stands.offset_lt_of_column_lt (h : r.Stands above left right below)
    (h' : r'.Stands above' left' right' below') (source : r.sourceChars = r'.sourceChars)
    (line : r.line = r'.line) (later : r.column < r'.column) : r.offset < r'.offset := by
  obtain ⟨rfl, own⟩ := h.eq_of_line_eq h' source line
  rw [h.column, h'.column] at later
  rw [h.offset, h'.offset]
  obtain ⟨more, rfl, -⟩ | ⟨more, rfl, -⟩ := List.append_eq_append_iff.mp own
  · have read : more ≠ [] := by
      rintro rfl
      simp at later
    have := utf8Length_pos read
    rw [utf8Length_append]
    omega
  · rw [List.length_append] at later
    omega

/-- In one text a position in a later line, or in a later column of the same line, has the greater
offset. -/
theorem Stands.offset_lt (h : r.Stands above left right below)
    (h' : r'.Stands above' left' right' below') (source : r.sourceChars = r'.sourceChars)
    (later : r.line < r'.line ∨ r.line = r'.line ∧ r.column < r'.column) : r.offset < r'.offset := by
  rcases later with later | ⟨line, later⟩
  · exact h.offset_lt_of_line_lt h' source later
  · exact h.offset_lt_of_column_lt h' source line later

/-- In one text the offset of a position and its line and column grow together. -/
theorem Stands.offset_lt_iff (h : r.Stands above left right below)
    (h' : r'.Stands above' left' right' below') (source : r.sourceChars = r'.sourceChars) :
    r.offset < r'.offset ↔ r.line < r'.line ∨ r.line = r'.line ∧ r.column < r'.column := by
  refine ⟨fun lt => ?_, h.offset_lt h' source⟩
  by_contra earlier
  by_cases same : r.line = r'.line ∧ r.column = r'.column
  · have := h.offset_eq_of_location_eq h' source same.1 same.2
    omega
  · have := h'.offset_lt h source.symm (by omega)
    omega

theorem Stands.offset_eq_iff (h : r.Stands above left right below)
    (h' : r'.Stands above' left' right' below') (source : r.sourceChars = r'.sourceChars) :
    r.offset = r'.offset ↔ r.line = r'.line ∧ r.column = r'.column := by
  have lt := h.offset_lt_iff h' source
  have gt := h'.offset_lt_iff h source.symm
  omega

end TextReader

/-- The line and the column of a position say where it stands: its line is one of the pieces between
the newlines, and the offset counts the pieces before it, their newlines, and the characters before the
column. So the offset and the pair of line and column order the positions of a text alike. -/
theorem location_identifies_offset (s : String) (n : Nat) (r : TextReader)
    (reached : r = Reader.advance n (TextReader.ofString s)) :
    (∃ piece, (s.toList.splitOn '\n')[r.line - 1]? = some piece ∧ r.column - 1 ≤ piece.length ∧
      r.offset = utf8Length ((s.toList.splitOn '\n').take (r.line - 1)).flatten +
        (s.toList.take n).count '\n' + utf8Length (piece.take (r.column - 1))) ∧
    (∀ m r', r' = Reader.advance m (TextReader.ofString s) →
      (r.offset < r'.offset ↔ r.line < r'.line ∨ r.line = r'.line ∧ r.column < r'.column) ∧
      (r.offset = r'.offset ↔ r.line = r'.line ∧ r.column = r'.column)) ∧
    ∀ c, Reader.first r = some c →
      ((Reader.rest r).line, (Reader.rest r).column) =
        if c = '\n' then (r.line + 1, 1) else (r.line, r.column + 1) := by
  subst reached
  have source (m : Nat) : (Reader.advance m (TextReader.ofString s)).sourceChars = s.toList :=
    TextReader.sourceChars_advance m _
  obtain ⟨above, left, right, below, h⟩ := TextReader.exists_stands s n
  refine ⟨?_, ?_, fun c => TextReader.location_rest⟩
  · have lines : s.toList.splitOn '\n' = above ++ (left ++ right) :: below := by
      rw [← source n, h.lines]
    have line := h.line
    have column := h.column
    have newlines : (s.toList.take n).count '\n' = above.length := by
      rw [← List.count_reverse, ← TextReader.before_advance]
      exact Nat.succ.inj line
    refine ⟨left ++ right, ?_, ?_, ?_⟩
    · simp [lines, line]
    · simp [column]
    · rw [h.offset, newlines, lines, line, column, Nat.add_sub_cancel, Nat.add_sub_cancel,
        List.take_left, List.take_left]
  · rintro m r' rfl
    obtain ⟨above', left', right', below', h'⟩ := TextReader.exists_stands s m
    have same := (source n).trans (source m).symm
    exact ⟨h.offset_lt_iff h' same, h.offset_eq_iff h' same⟩

/-- The second character of the second line, five bytes in: before it stand two letters of two bytes
each and a newline. -/
theorem location_identifies_offset_secondLine :
    let r := Reader.advance 3 (TextReader.ofString "é\nüx\n")
    let earlier := Reader.advance 1 (TextReader.ofString "é\nüx\n")
    Reader.first r = some 'x' ∧ r.offset = 5 ∧ (r.line, r.column) = (2, 2) ∧
      ((Reader.rest r).line, (Reader.rest r).column) = (2, 3) ∧
      (earlier.line, earlier.column) = (1, 2) ∧ earlier.offset < r.offset := by
  intro r earlier
  obtain ⟨-, -, step⟩ := location_identifies_offset "é\nüx\n" 3 r rfl
  obtain ⟨-, order, -⟩ := location_identifies_offset "é\nüx\n" 1 earlier rfl
  exact ⟨rfl, rfl, rfl, step 'x' rfl, rfl, (order 3 r rfl).1.mpr (.inl (by decide))⟩

end SafeDescent
