import SafeDescent.Proofs.Reader.Ahead
import SafeDescent.Reader.Text
import SafeDescent.Span

namespace SafeDescent

theorem utf8Length_append (cs ds : List Char) :
    utf8Length (cs ++ ds) = utf8Length cs + utf8Length ds := by
  simp [utf8Length]

theorem utf8Length_reverse (cs : List Char) : utf8Length cs.reverse = utf8Length cs := by
  induction cs with
  | nil => rfl
  | cons c cs ih => rw [List.reverse_cons, utf8Length_append, ih, utf8Length_cons, utf8Length_cons,
      utf8Length_nil, Nat.add_zero, Nat.add_comm]

theorem utf8Length_replicate (n : Nat) (c : Char) :
    utf8Length (List.replicate n c) = n * c.utf8Size := by
  induction n with
  | zero => exact (Nat.zero_mul _).symm
  | succ n ih => rw [List.replicate_succ, utf8Length_cons, ih, Nat.succ_mul, Nat.add_comm]

theorem utf8Length_toList (s : String) : utf8Length s.toList = s.utf8ByteSize := by
  rw [utf8Length, String.ofList_toList]

/-- A character takes at least one of the bytes, and leaves those of the others. -/
theorem utf8Length_cons_eq_succ (c : Char) (cs : List Char) :
    ∃ bytes, utf8Length (c :: cs) = bytes + 1 ∧ c.utf8Size ≤ bytes + 1 ∧
      bytes + 1 - c.utf8Size = utf8Length cs := by
  have pos := Char.utf8Size_pos c
  refine ⟨c.utf8Size + utf8Length cs - 1, ?_, ?_, ?_⟩
  · rw [utf8Length_cons]
    omega
  · omega
  · omega

theorem utf8Length_pos {cs : List Char} (h : cs ≠ []) : 0 < utf8Length cs := by
  obtain ⟨c, cs, rfl⟩ := List.exists_cons_of_ne_nil h
  obtain ⟨bytes, hb, -⟩ := utf8Length_cons_eq_succ c cs
  rw [hb]
  exact Nat.succ_pos bytes

/-- Dropping the bytes of a beginning leaves what comes after it. -/
theorem Span.dropBytes?_append (cs rest : List Char) :
    dropBytes? (cs ++ rest) (utf8Length cs) = some rest := by
  induction cs with
  | nil => cases rest <;> rfl
  | cons c cs ih =>
    obtain ⟨bytes, hb, enough, left⟩ := utf8Length_cons_eq_succ c cs
    rw [hb, List.cons_append, dropBytes?, if_pos enough, left, ih]

/-- Taking the bytes of a beginning gives it. -/
theorem Span.takeBytes?_append (cs rest : List Char) :
    takeBytes? (cs ++ rest) (utf8Length cs) = some cs := by
  induction cs with
  | nil => cases rest <;> rfl
  | cons c cs ih =>
    obtain ⟨bytes, hb, enough, left⟩ := utf8Length_cons_eq_succ c cs
    rw [hb, List.cons_append, takeBytes?, if_pos enough, left, ih]
    rfl

/-- The part of a text between two others is cut out by the bytes before it and up to its end. -/
theorem Span.slice?_append (front part back : List Char) :
    (Span.mk (utf8Length front) (utf8Length front + utf8Length part)).slice?
      (String.ofList (front ++ (part ++ back))) = some (String.ofList part) := by
  have order : ¬ utf8Length front + utf8Length part < utf8Length front := by omega
  simp [slice?, order, dropBytes?_append, takeBytes?_append]

namespace TextReader

/-- The second position stands in the same text, after some characters ahead of the first one. -/
structure Reads (input : TextReader) (read : List Char) (r : TextReader) : Prop where
  ahead : input.ahead = read ++ r.ahead
  before : r.before = read.reverse ++ input.before

variable {input middle r : TextReader} {read more : List Char}

theorem Reads.refl (input : TextReader) : Reads input [] input := ⟨rfl, rfl⟩

theorem Reads.trans (h : Reads input read middle) (h' : Reads middle more r) :
    Reads input (read ++ more) r where
  ahead := by rw [h.ahead, h'.ahead, List.append_assoc]
  before := by rw [h'.before, h.before, List.reverse_append, List.append_assoc]

theorem reads_of_read {c : Char} (h : Reader.read input = some (c, r)) : Reads input [c] r := by
  obtain ⟨before, ahead, offset, offset_eq⟩ := input
  cases ahead with
  | nil => cases h
  | cons d ahead =>
    obtain ⟨rfl, rfl⟩ := Prod.mk.inj (Option.some.inj h)
    exact ⟨rfl, rfl⟩

/-- Characters that stand ahead are read by moving on over them. -/
theorem reads_advance {cs : List Char} {input : TextReader} (h : cs <+: input.ahead) :
    Reads input cs (Reader.advance cs.length input) := by
  induction cs generalizing input with
  | nil => exact .refl input
  | cons c cs ih =>
    obtain ⟨more, begins⟩ := h
    have read : Reader.read input = some (c, Reader.rest input) := by
      rw [Reader.read, LawfulReader.first_eq]
      exact congrArg (fun ahead => (List.head? ahead).map fun x => (x, Reader.rest input)) begins.symm
    have reads := reads_of_read read
    have behind : (Reader.rest input).ahead = cs ++ more :=
      List.cons.inj (reads.ahead.symm.trans begins.symm) |>.2
    exact reads.trans (ih (behind ▸ List.prefix_append cs more))

/-- A position that is reached stands after what was read on the way. -/
theorem reads_of_reaches (h : Reader.Reaches input r) : ∃ read, input.Reads read r := by
  obtain ⟨n, holds, rfl⟩ := h
  induction n with
  | zero => exact ⟨[], .refl input⟩
  | succ n ih =>
    obtain ⟨read, reads⟩ := ih (holds.mono (Nat.le_succ n))
    obtain ⟨c, hc⟩ := Option.isSome_iff_exists.mp (holds n (Nat.lt_succ_self n))
    have next : Reader.read (Reader.advance n input) = some (c, Reader.advance (n + 1) input) := by
      rw [Reader.read, hc, Reader.rest_advance, Option.map_some]
    exact ⟨read ++ [c], reads.trans (reads_of_read next)⟩

theorem Reads.offset (h : Reads input read r) : r.offset = input.offset + utf8Length read := by
  rw [r.offset_eq, h.before, utf8Length_append, utf8Length_reverse, input.offset_eq, Nat.add_comm]

theorem Reads.source (h : Reads input read r) : r.source = input.source := by
  simp [TextReader.source, sourceChars, h.before, h.ahead]

theorem Reads.unread (h : Reads input read r) : String.ofList read ++ r.unread = input.unread := by
  rw [TextReader.unread, TextReader.unread, h.ahead, String.ofList_append]

/-- What was read is the part of the text between the two offsets. -/
theorem Reads.slice (h : Reads input read r) :
    (Span.mk input.offset r.offset).slice? input.source = some (String.ofList read) := by
  have start : input.offset = utf8Length input.before.reverse := by
    rw [utf8Length_reverse, input.offset_eq]
  rw [h.offset, start, TextReader.source, sourceChars, h.ahead]
  exact Span.slice?_append ..

end TextReader

end SafeDescent
