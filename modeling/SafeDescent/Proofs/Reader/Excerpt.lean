import Mathlib.Data.List.Intervals
import SafeDescent.Proofs.Reader.Lines

namespace SafeDescent

namespace TextReader

variable {r : TextReader} {above below : List (List Char)} {left right : List Char}

/-- The numbered line is quoted around the position: it is at most two lines away. -/
def quotes (r : TextReader) (numbered : List Char × Nat) : Bool :=
  r.line - 2 ≤ numbered.2 && numbered.2 ≤ r.line + 2

/-- The lines that are quoted are numbered from two before the position's to two after it, as far as
the text goes. -/
theorem map_snd_filter_quotes (r : TextReader) (lines : List (List Char)) :
    ((lines.zipIdx 1).filter r.quotes).map Prod.snd =
      List.Ico (max 1 (r.line - 2)) (min lines.length (r.line + 2) + 1) := by
  have numbers : (lines.zipIdx 1).map Prod.snd = List.Ico 1 (lines.length + 1) := by
    rw [List.zipIdx_map_snd, List.Ico, Nat.add_sub_cancel]
  have window : r.quotes = (fun number => decide (r.line - 2 ≤ number) &&
      decide (number < r.line + 3)) ∘ (Prod.snd : List Char × Nat → Nat) := by
    funext numbered
    simp [quotes, Nat.lt_succ_iff]
  calc
    ((lines.zipIdx 1).filter r.quotes).map Prod.snd
      = (List.Ico 1 (lines.length + 1)).filter fun number =>
          decide (r.line - 2 ≤ number) && decide (number < r.line + 3) := by
        rw [window, ← List.filter_map, numbers]
    _ = ((List.Ico 1 (lines.length + 1)).filter fun number => number < r.line + 3).filter
          fun number => r.line - 2 ≤ number := List.filter_filter.symm
    _ = List.Ico (max 1 (r.line - 2)) (min (lines.length + 1) (r.line + 3)) := by
        rw [List.Ico.filter_lt, List.Ico.filter_le]
    _ = List.Ico (max 1 (r.line - 2)) (min lines.length (r.line + 2) + 1) := by
        rw [← Nat.add_min_add_right]

/-- Lines with other numbers than the position's are quoted as they are. -/
theorem flatMap_quoteLine (r : TextReader) {numbered : List (List Char × Nat)}
    (other : ∀ quoted ∈ numbered, quoted.2 ≠ r.line) :
    numbered.flatMap (fun quoted => r.quoteLine quoted.2 quoted.1) =
      numbered.map fun quoted => .plain quoted.2 quoted.1 := by
  rw [List.map_eq_flatMap]
  refine List.flatMap_congr fun quoted mem => ?_
  rw [quoteLine, if_neg (other quoted mem)]

/-- The position's own line is quoted, between those above it and those below it. -/
theorem Stands.filter_quotes (h : r.Stands above left right below) :
    ((r.sourceChars.splitOn '\n').zipIdx 1).filter r.quotes =
      (above.zipIdx 1).filter r.quotes ++
        (left ++ right, r.line) :: (below.zipIdx (r.line + 1)).filter r.quotes := by
  have line : 1 + above.length = r.line := by rw [h.line, Nat.add_comm]
  have here : r.quotes (left ++ right, r.line) = true := by simp [quotes]
  rw [h.lines, List.zipIdx_append, List.zipIdx_cons, line, List.filter_append,
    List.filter_cons_of_pos here]

theorem Stands.contextLines (h : r.Stands above left right below) :
    r.contextLines =
      (((above.zipIdx 1).filter r.quotes).map fun quoted => .plain quoted.2 quoted.1) ++
        [.marked r.line (left ++ right),
          .pointer ((ContextLine.marker r.line).length + r.column - 1)] ++
        ((below.zipIdx (r.line + 1)).filter r.quotes).map fun quoted => .plain quoted.2 quoted.1 := by
  have line := h.line
  have earlier : ∀ quoted ∈ (above.zipIdx 1).filter r.quotes, quoted.2 ≠ r.line := by
    intro quoted mem
    have := List.snd_lt_add_of_mem_zipIdx (List.mem_filter.mp mem).1
    omega
  have later : ∀ quoted ∈ (below.zipIdx (r.line + 1)).filter r.quotes, quoted.2 ≠ r.line := by
    intro quoted mem
    have := List.le_snd_of_mem_zipIdx (List.mem_filter.mp mem).1
    omega
  calc
    r.contextLines
      = (((r.sourceChars.splitOn '\n').zipIdx 1).filter r.quotes).flatMap
          fun quoted => r.quoteLine quoted.2 quoted.1 := rfl
    _ = _ := by
        rw [h.filter_quotes, List.flatMap_append, List.flatMap_cons,
          flatMap_quoteLine r earlier, flatMap_quoteLine r later, quoteLine, if_pos rfl,
          List.append_assoc]

/-- The rest of the position's line begins with the character at the position. -/
theorem Stands.head?_right (h : r.Stands above left right below) :
    right.head? = (Reader.first r).filter (· ≠ '\n') := by
  have ahead := h.ahead
  cases hc : Reader.first r with
  | none =>
    rw [List.head?_eq_none_iff.mp hc, List.splitOn_nil] at ahead
    obtain ⟨rfl, -⟩ := List.cons.inj ahead
    rfl
  | some c =>
    obtain ⟨line, lines, cut⟩ :=
      List.exists_cons_of_ne_nil (List.splitOn_ne_nil '\n' (Reader.rest r).ahead)
    rw [ahead_eq_cons hc, List.splitOn_cons_eq_if_modifyHead, cut] at ahead
    by_cases newline : c = '\n'
    · rw [if_pos (by simpa using newline)] at ahead
      obtain ⟨rfl, -⟩ := List.cons.inj ahead
      simp [Option.filter_some, newline]
    · rw [if_neg (by simpa using newline)] at ahead
      obtain ⟨rfl, -⟩ := List.cons.inj ahead
      simp [Option.filter_some, newline]

end TextReader

theorem pushn_empty (c : Char) (n : Nat) : "".pushn c n = String.ofList (List.replicate n c) := by
  apply String.toList_inj.mp
  rw [String.pushn_eq_repeat_push, String.toList_ofList]
  induction n with
  | zero => rfl
  | succ n ih => rw [Nat.repeat, String.toList_push, ih, ← List.replicate_succ']

/-- The long description of a position quotes its line and up to two lines on either side, in their
order and with their numbers. The line of the position is marked, and after it a pointer stands under
the character at the position, or just past the line where the line or the text ends. -/
theorem excerpt_points_at_position (s : String) (n : Nat) (r : TextReader)
    (reached : r = Reader.advance n (TextReader.ofString s)) :
    let lines := s.toList.splitOn '\n'
    let shown (quoted : List Char × Nat) : String :=
      "    " ++ toString quoted.2 ++ " | " ++ String.ofList quoted.1
    let marker := "  > " ++ toString r.line ++ " | "
    let indent := marker.length + (r.column - 1)
    ∃ above content below,
      (above ++ (content, r.line) :: below).map Prod.snd =
        List.Ico (max 1 (r.line - 2)) (min lines.length (r.line + 2) + 1) ∧
      (∀ quoted ∈ above ++ (content, r.line) :: below, lines[quoted.2 - 1]? = some quoted.1) ∧
      r.contextLines.map ContextLine.render =
        above.map shown ++ [marker ++ String.ofList content,
          String.ofList (List.replicate indent ' ') ++ "^--- here"] ++ below.map shown ∧
      Reader.context r = "\n".intercalate (r.contextLines.map ContextLine.render) ∧
      (∀ c, Reader.first r = some c → c ≠ '\n' →
        (marker ++ String.ofList content).toList[indent]? = some c) ∧
      (Reader.first r = none ∨ Reader.first r = some '\n' →
        (marker ++ String.ofList content).length = indent) := by
  intro lines shown marker indent
  obtain ⟨above, left, right, below, h⟩ := TextReader.exists_stands s n
  rw [← reached] at h
  have source : r.sourceChars = s.toList := by
    rw [reached]
    exact TextReader.sourceChars_advance n _
  have quoted : (lines.zipIdx 1).filter r.quotes = _ := source ▸ h.filter_quotes
  have column : r.column - 1 = left.length := by rw [h.column, Nat.add_sub_cancel]
  have under : (ContextLine.marker r.line).length + r.column - 1 = indent :=
    Nat.add_sub_assoc (by rw [h.column]; omega) _
  have text : (marker ++ String.ofList (left ++ right)).toList = marker.toList ++ (left ++ right) := by
    rw [String.toList_append, String.toList_ofList]
  have start : indent = (marker.toList ++ left).length := by
    rw [List.length_append, String.length_toList, ← column]
  refine ⟨(above.zipIdx 1).filter r.quotes, left ++ right, (below.zipIdx (r.line + 1)).filter r.quotes,
    ?_, ?_, ?_, rfl, ?_, ?_⟩
  · rw [← quoted, r.map_snd_filter_quotes]
  · intro line mem
    rw [← quoted] at mem
    exact (List.mem_zipIdx_iff_le_and_getElem?_sub.mp (List.mem_filter.mp mem).1).2
  · have pointer : (ContextLine.pointer indent).render =
        String.ofList (List.replicate indent ' ') ++ "^--- here" := by
      rw [ContextLine.render, pushn_empty]
    rw [h.contextLines, under]
    simp only [List.map_append, List.map_map, List.map_cons, List.map_nil, pointer]
    rfl
  · intro c first other
    rw [text, ← List.append_assoc, start, List.getElem?_append_right (Nat.le_refl _), Nat.sub_self,
      ← List.head?_eq_getElem?, h.head?_right, first]
    simp [Option.filter_some, other]
  · intro ends
    have nothing : right = [] := by
      rw [← List.head?_eq_none_iff, h.head?_right]
      rcases ends with ends | ends <;> rw [ends] <;> rfl
    rw [← String.length_toList, text, nothing, List.append_nil, start]

/-- The second letter of the third of six lines: the last line is not quoted. -/
theorem excerpt_points_at_position_thirdLine :
    let r := Reader.advance 5 (TextReader.ofString "α\nβ\nγδ\nε\nζ\nη")
    Reader.first r = some 'δ' ∧ 'δ' ≠ '\n' ∧
      Reader.context r =
        "    1 | α\n    2 | β\n  > 3 | γδ\n         ^--- here\n    4 | ε\n    5 | ζ" ∧
      ∃ content, ("  > 3 | " ++ String.ofList content).toList[9]? = some 'δ' := by
  intro r
  have quoted := excerpt_points_at_position "α\nβ\nγδ\nε\nζ\nη" 5 r rfl
  have line : r.line = 3 := rfl
  have column : r.column = 2 := rfl
  rw [line, column] at quoted
  obtain ⟨above, content, below, -, -, -, -, under, -⟩ := quoted
  exact ⟨rfl, by decide, by decide +kernel, content, under 'δ' rfl (by decide)⟩

end SafeDescent
