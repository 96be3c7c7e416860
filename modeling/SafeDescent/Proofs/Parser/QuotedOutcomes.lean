import SafeDescent.Proofs.Parser.Outcome
import SafeDescent.Proofs.Parser.Verbatim
import SafeDescent.Proofs.Reader.Reading
import SafeDescent.Proofs.Trampoline.Promise

namespace SafeDescent

/-- Where the text of an outcome begins, and what is known of its value. -/
structure Quote where
  start : TextReader
  yield : Yield

namespace Quote

/-- A success holds the characters between the beginning and the position where it stopped. -/
def Kept (quote : Quote) (outcome : Outcome TextReader Value) : Prop :=
  ∀ value r, outcome = .success value r → quote.start.Reads value.chars r ∧ value.Has quote.yield

variable {quote : Quote} {outcome : Outcome TextReader Value}

theorem kept_success {value : Value} {r : TextReader} :
    quote.Kept (.success value r) ↔ quote.start.Reads value.chars r ∧ value.Has quote.yield := by
  constructor
  · intro h
    exact h value r rfl
  · rintro h _ _ ⟨⟩
    exact h

theorem kept_failure (message : String) (r : TextReader) : quote.Kept (.failure message r) := nofun

theorem kept_error (message : String) (r : TextReader) : quote.Kept (.error message r) := nofun

theorem Kept.furthest (h : quote.Kept outcome) (message : String) (stopped : TextReader) :
    quote.Kept (outcome.furthest message stopped) := by
  cases outcome with
  | success value r => exact h
  | failure other r =>
    rw [Outcome.furthest_failure]
    split
    · exact h
    · exact kept_failure _ _
  | error other r =>
    rw [Outcome.furthest_error]
    split
    · exact h
    · exact kept_failure _ _

theorem Kept.requireEnd (h : quote.Kept outcome) : quote.Kept outcome.requireEnd := by
  cases outcome with
  | success value r =>
    simp only [Outcome.requireEnd]
    split
    · exact h
    · exact kept_failure _ _
  | failure message r => exact h
  | error message r => exact h

theorem Kept.finish (h : quote.Kept outcome) (extent : Extent) :
    quote.Kept (extent.finish outcome) := by
  cases extent with
  | part => exact h
  | whole => exact h.requireEnd

end Quote

theorem matchLiteral_success {literal rest : List Char} {input r : TextReader} {value : Value}
    (h : matchLiteral literal rest input = .success value r) :
    input.Reads rest r ∧ value = .text (Element.joined literal) := by
  induction rest generalizing input with
  | nil =>
    obtain ⟨rfl, rfl⟩ := Outcome.success.inj h
    exact ⟨.refl input, rfl⟩
  | cons expected rest ih =>
    unfold matchLiteral at h
    split at h
    next x next read =>
      split at h
      next same =>
        obtain ⟨reads, he⟩ := ih h
        subst same
        exact ⟨(TextReader.reads_of_read read).trans reads, he⟩
      next => cases h
    next => cases h

/-- A primitive parser that accepts one character holds it. -/
theorem Quote.kept_element {quote : Quote} {c : Char} {r : TextReader}
    (fits : Yield.character.Fits quote.yield) (read : Reader.read quote.start = some (c, r)) :
    quote.Kept (.success (Element.toValue c) r) := by
  have chars : (Element.toValue c).chars = [c] := Value.chars_char c
  rw [kept_success, chars]
  exact ⟨TextReader.reads_of_read read, Value.Has.fits (by simp [Value.Has, chars]) fits⟩

theorem Primitive.run_kept {p : Primitive Char} {quote : Quote} {known : Yield}
    (h : p.Verbatim known) (fits : known.Fits quote.yield) : quote.Kept (p.run quote.start) := by
  cases p with
  | succeed value =>
    obtain ⟨nothing, has⟩ := h
    rw [Primitive.run, Quote.kept_success, nothing]
    exact ⟨.refl _, has.fits fits⟩
  | fail message => exact Quote.kept_failure _ _
  | fatal message => exact Quote.kept_error _ _
  | any =>
    have fits := Yield.Fits.trans h fits
    simp only [Primitive.run]
    split
    next c r read => exact Quote.kept_element fits read
    next => exact Quote.kept_failure _ _
  | satisfy accepts expected =>
    have fits := Yield.Fits.trans h fits
    simp only [Primitive.run]
    split
    next c r read =>
      split
      · exact Quote.kept_element fits read
      · exact Quote.kept_failure _ _
    next => exact Quote.kept_failure _ _
  | literal expected =>
    obtain rfl : known = .anything := h
    intro value r success
    obtain ⟨reads, rfl⟩ := matchLiteral_success success
    rw [Value.chars_text, Element.toList_joined]
    exact ⟨reads, (Value.has_anything _).fits fits⟩
  | endOfInput =>
    obtain rfl : known = .anything := h
    simp only [Primitive.run]
    split
    · exact Quote.kept_success.mpr ⟨.refl _, (Value.has_anything _).fits fits⟩
    · exact Quote.kept_failure _ _

/-- The adjustment gives back what it drops, and it drops nothing else. -/
theorem Adjustment.apply_kept {adjustment : Adjustment} {earlier quote : Quote} {known : Yield}
    (h : adjustment.Verbatim earlier.yield known) (fits : known.Fits quote.yield)
    (start : earlier.start = quote.start) {outcome : Outcome TextReader Value}
    (kept : earlier.Kept outcome) : quote.Kept (adjustment.apply quote.start outcome) := by
  have nothing (value : Value) (hv : value.chars = []) (hy : known = .anything) :
      quote.Kept (.success value quote.start) := by
    rw [Quote.kept_success, hv]
    subst hy
    exact ⟨.refl _, (Value.has_anything _).fits fits⟩
  have same (hy : earlier.yield = known) : quote.Kept outcome := by
    intro value r success
    obtain ⟨reads, has⟩ := kept value r success
    rw [start] at reads
    rw [hy] at has
    exact ⟨reads, has.fits fits⟩
  cases adjustment with
  | map f => exact h.elim
  | optional =>
    obtain rfl : known = .anything := h
    cases outcome with
    | success value r =>
      obtain ⟨reads, -⟩ := Quote.kept_success.mp kept
      rw [start] at reads
      exact Quote.kept_success.mpr ⟨reads, (Value.has_anything _).fits fits⟩
    | failure message r => exact nothing _ rfl rfl
    | error message r => exact Quote.kept_error _ _
  | negate =>
    cases outcome with
    | success value r => exact Quote.kept_failure _ _
    | failure message r => exact nothing _ rfl h
    | error message r => exact nothing _ rfl h
  | guard =>
    cases outcome with
    | success value r => exact nothing _ rfl h
    | failure message r => exact Quote.kept_failure _ _
    | error message r => exact Quote.kept_error _ _
  | commit =>
    have kept := same h
    cases outcome with
    | success value r => exact kept
    | failure message r => exact Quote.kept_error _ _
    | error message r => exact Quote.kept_error _ _
  | failureMessage message =>
    have kept := same h
    cases outcome with
    | success value r => exact kept
    | failure message r => exact Quote.kept_failure _ _
    | error message r => exact Quote.kept_error _ _
  | errorMessage message =>
    have kept := same h
    cases outcome with
    | success value r => exact kept
    | failure message r => exact Quote.kept_failure _ _
    | error message r => exact Quote.kept_error _ _
  | phrase => exact (same h).requireEnd
  | spanned => exact h.elim

end SafeDescent
