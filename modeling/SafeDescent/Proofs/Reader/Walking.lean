import Mathlib.Algebra.Ring.Nat
import Mathlib.Data.List.Induction
import SafeDescent.Proofs.Reader.EnumeratingWalks
import SafeDescent.Proofs.Reader.Lines
import SafeDescent.Reader.Slice

namespace SafeDescent

namespace TextReader

/-- The position stands in a text after a part of it. Its offset is a boundary between two characters,
where the text falls into the part before it and the unread part. The slice from the start of its line
to the offset is what stands before it in the line, and the column counts the characters there. -/
structure Divides (r : TextReader) (s consumed : String) : Prop where
  joined : consumed ++ r.unread = s
  offset : r.offset = consumed.utf8ByteSize
  boundary : String.Pos.Raw.IsValid s ⟨r.offset⟩
  front : (Span.mk 0 r.offset).slice? s = some consumed
  back : (Span.mk r.offset s.utf8ByteSize).slice? s = some r.unread
  first : Reader.first r = r.unread.toList.head?
  line : r.line = consumed.toList.count '\n' + 1
  column : r.column = (consumed.toList.reverse.takeWhile (· ≠ '\n')).length + 1
  inLine : ∃ above left, consumed = above ++ left ∧
    (above = "" ∨ above.toList.getLast? = some '\n') ∧ '\n' ∉ left.toList ∧
      (Span.mk above.utf8ByteSize r.offset).slice? s = some left ∧ r.column = left.length + 1

/-- A text falls into what comes up to its last newline and what comes after it. -/
theorem exists_lastLine (cs : List Char) : ∃ above left, cs = above ++ left ∧
    (above = [] ∨ above.getLast? = some '\n') ∧ '\n' ∉ left ∧
      (cs.reverse.takeWhile (· ≠ '\n')).length = left.length := by
  -- From the end on, every character but a newline belongs to the last part.
  induction cs using List.reverseRecOn with
  | nil => exact ⟨[], [], rfl, .inl rfl, List.not_mem_nil, rfl⟩
  | append_singleton cs c ih =>
    by_cases newline : c = '\n'
    · subst newline
      exact ⟨cs ++ ['\n'], [], (List.append_nil _).symm, .inr (by simp), List.not_mem_nil, by simp⟩
    · obtain ⟨above, left, rfl, start, own, length⟩ := ih
      refine ⟨above, left ++ [c], List.append_assoc .., start, ?_, ?_⟩
      · simp [own, Ne.symm newline]
      · rw [List.reverse_append, List.reverse_singleton, List.singleton_append,
          List.takeWhile_cons_of_pos (by simpa using newline), List.length_cons, length,
          List.length_append, List.length_singleton]

theorem reads_ofString (s : String) (n : Nat) :
    (ofString s).Reads (s.toList.take n) (Reader.advance n (ofString s)) where
  ahead := by
    have ahead : (Reader.advance n (ofString s)).ahead = s.toList.drop n :=
      Reader.ahead_advance n (ofString s)
    rw [ahead, List.take_append_drop]
    rfl
  before := by
    rw [before_advance]
    exact (List.append_nil _).symm

theorem source_ofString (s : String) : (ofString s).source = s := String.ofList_toList

theorem divides_advance (s : String) (n : Nat) :
    (Reader.advance n (ofString s)).Divides s (String.ofList (s.toList.take n)) := by
  have reads := reads_ofString s n
  generalize Reader.advance n (ofString s) = r at reads
  have joined : String.ofList (s.toList.take n) ++ r.unread = s := by
    rw [reads.unread]
    exact String.ofList_toList
  have source : r.source = s := reads.source.trans (source_ofString s)
  have offset : r.offset = (String.ofList (s.toList.take n)).utf8ByteSize := by
    rw [reads.offset, ← utf8Length_toList, String.toList_ofList]
    exact Nat.zero_add _
  have rest : r.Reads r.ahead (Reader.advance r.ahead.length r) := reads_advance List.prefix_rfl
  have last : (Reader.advance r.ahead.length r).offset = s.utf8ByteSize := by
    have bytes : s.utf8ByteSize = r.offset + r.unread.utf8ByteSize := by
      rw [offset, ← String.utf8ByteSize_append, joined]
    rw [rest.offset, bytes, ← utf8Length_toList, unread, String.toList_ofList]
  have before : r.before = (s.toList.take n).reverse := reads.before.trans (List.append_nil _)
  have column : r.column = ((s.toList.take n).reverse.takeWhile (· ≠ '\n')).length + 1 := by
    rw [column, before]
  refine ⟨joined, offset, ?_, ?_, ?_, ?_, ?_, ?_, ?_⟩
  · exact String.Pos.Raw.isValid_iff_exists_append.mpr
      ⟨_, _, joined.symm, congrArg String.Pos.Raw.mk offset⟩
  · have front := reads.slice
    rwa [source_ofString] at front
  · have back := rest.slice
    rwa [last, source] at back
  · rw [unread, String.toList_ofList]
    rfl
  · rw [line, before, List.count_reverse, String.toList_ofList]
  · rw [column, String.toList_ofList]
  · obtain ⟨above, left, cut, start, own, length⟩ := exists_lastLine (s.toList.take n)
    refine ⟨String.ofList above, String.ofList left, ?_, ?_, ?_, ?_, ?_⟩
    · rw [cut, String.ofList_append]
    · simpa using start
    · rwa [String.toList_ofList]
    · have text : s = String.ofList (above ++ (left ++ r.ahead)) := by
        rw [← List.append_assoc, ← cut, String.ofList_append]
        exact joined.symm
      rw [offset, cut, String.ofList_append, String.utf8ByteSize_append, text]
      exact Span.slice?_append ..
    · rw [column, length, String.length_ofList]

end TextReader

namespace SliceReader

variable {ε : Type}

/-- The position stands in an array after some of its elements, at the index where the array falls into
those before it and those ahead. -/
structure Divides (r : SliceReader ε) (source : Array ε) (count : Nat) : Prop where
  elements : r.elements = source
  index : r.index = count
  index_le : r.index ≤ source.size
  joined : source.extract 0 r.index ++ source.extract r.index source.size = source
  ahead : (source.extract r.index source.size).toList = r.ahead

theorem elements_advance (n : Nat) (r : SliceReader ε) :
    (Reader.advance n r).elements = r.elements := by
  induction n with
  | zero => rfl
  | succ n ih =>
    rw [← Reader.rest_advance, ← ih]
    simp only [Reader.rest, rest]
    split <;> rfl

theorem offset_rest {r : SliceReader ε} {x : ε} (h : Reader.first r = some x) :
    Reader.offset (Reader.rest r) = Reader.offset r + 1 := by
  have inside : r.index < r.elements.size := by
    obtain ⟨inside, -⟩ := Array.getElem?_eq_some_iff.mp h
    exact inside
  simp only [Reader.rest, rest, inside, dif_pos, Reader.offset]

theorem enumerates_ofArray (source : Array ε) :
    Reader.Enumerates (fun _ => 1) (ofArray source) source.toList :=
  Reader.enumerates_of_sized (fun _ _ => offset_rest) rfl

theorem divides_advance (source : Array ε) (n : Nat) :
    (Reader.advance n (ofArray source)).Divides source (min n source.size) := by
  have elements : (Reader.advance n (ofArray source)).elements = source := elements_advance n _
  have index : (Reader.advance n (ofArray source)).index = min n source.size := by
    have ones (xs : List ε) : (xs.map fun _ => 1).sum = xs.length := by
      rw [List.map_const', List.sum_replicate_nat, Nat.mul_one]
    have counted : (Reader.advance n (ofArray source)).index =
        ((source.toList.take (min n source.size)).map fun _ => 1).sum :=
      (enumerates_ofArray source).offset n
    rw [counted, ones, List.length_take, Array.length_toList]
    omega
  generalize Reader.advance n (ofArray source) = r at elements index
  have index_le : r.index ≤ source.size := by omega
  refine ⟨elements, index, index_le, ?_, ?_⟩
  · rw [Array.extract_append_extract, Nat.zero_min, Nat.max_eq_right index_le, Array.extract_size]
  · rw [ahead, elements, Array.toList_extract, List.extract_eq_take_drop, ← Array.length_toList]
    exact List.take_of_length_le (by simp)

end SliceReader

/-- A walk over a text or an array comes by its characters or elements in order. In a text the offset
counts the bytes of those passed, and is always a boundary between two characters. An array of the
characters of a text is walked over in the same steps. -/
theorem walk_enumerates_source :
    (∀ s : String, Reader.Enumerates Char.utf8Size (TextReader.ofString s) s.toList ∧
      ∀ n, (Reader.advance n (TextReader.ofString s)).Divides s (String.ofList (s.toList.take n))) ∧
    (∀ (ε : Type) (source : Array ε),
      Reader.Enumerates (fun _ => 1) (SliceReader.ofArray source) source.toList ∧
        ∀ n, (Reader.advance n (SliceReader.ofArray source)).Divides source (min n source.size)) ∧
    ∀ (s : String) (m n : Nat),
      let text (k : Nat) := Reader.advance k (TextReader.ofString s)
      let chars (k : Nat) := Reader.advance k (SliceReader.ofArray s.toList.toArray)
      Reader.first (text n) = Reader.first (chars n) ∧
        (text n).offset = utf8Length (s.toList.take (chars n).index) ∧
        ((text m).offset < (text n).offset ↔ (chars m).index < (chars n).index) ∧
        (text m = text n ↔ chars m = chars n) := by
  have texts (s : String) :
      Reader.Enumerates Char.utf8Size (TextReader.ofString s) s.toList :=
    Reader.enumerates_of_sized (fun r c found => (TextReader.offset_rest found).trans (Nat.add_comm _ _))
      rfl
  refine ⟨fun s => ⟨texts s, TextReader.divides_advance s⟩,
    fun ε source => ⟨SliceReader.enumerates_ofArray source, SliceReader.divides_advance source⟩,
    fun s m n => ?_⟩
  intro text chars
  have elements := SliceReader.enumerates_ofArray s.toList.toArray
  have divides := TextReader.divides_advance s n
  have index := (SliceReader.divides_advance s.toList.toArray n).index
  refine ⟨?_, ?_, ?_, ?_⟩
  · rw [(texts s).first, elements.first]
  · rw [divides.offset, index, ← utf8Length_toList, String.toList_ofList, List.size_toArray,
      ← List.take_eq_take_min]
  · have order : Reader.offset (text m) < Reader.offset (text n) ↔
        min m s.toList.length < min n s.toList.length := Reader.offset_advance_lt_iff
    have order' : Reader.offset (chars m) < Reader.offset (chars n) ↔
        min m s.toList.length < min n s.toList.length := Reader.offset_advance_lt_iff
    exact order.trans order'.symm
  · have same : text m = text n ↔ min m s.toList.length = min n s.toList.length :=
      Reader.advance_eq_iff
    have same' : chars m = chars n ↔ min m s.toList.length = min n s.toList.length :=
      Reader.advance_eq_iff
    exact same.trans same'.symm

end SafeDescent
