import SafeDescent.Parser.Machine

namespace SafeDescent

variable {ρ ε : Type}

namespace Frame

/-- The frame hands an error on. Only a negative lookahead takes an error for an answer, and only
the comparison with an earlier alternative may drop one. -/
def HandsOn : Frame ρ ε → Prop
  | .comparing _ _ => False
  | .adjusting .negate _ => False
  | _ => True

/-- What a frame makes of the message and the position of an error that it hands on. -/
def relay (frame : Frame ρ ε) (message : String) (r : ρ) : String × ρ :=
  match frame with
  | .adjusting .guard start => (message, start)
  | .adjusting (.errorMessage other) _ => (other, r)
  | _ => (message, r)

/-- An error after it went through frames, the innermost first. -/
def relayAll : List (Frame ρ ε) → String → ρ → String × ρ
  | [], message, r => (message, r)
  | frame :: path, message, r =>
    relayAll path (frame.relay message r).1 (frame.relay message r).2

/-- The frame is no guard, which would go back to where it started. -/
def Stays (frame : Frame ρ ε) : Prop := ∀ start, frame ≠ .adjusting .guard start

/-- The frame has no message of its own for errors. -/
def Repeats (frame : Frame ρ ε) : Prop :=
  ∀ message start, frame ≠ .adjusting (.errorMessage message) start

theorem relayAll_snoc (path : List (Frame ρ ε)) (frame : Frame ρ ε) (message : String) (r : ρ) :
    relayAll (path ++ [frame]) message r =
      frame.relay (relayAll path message r).1 (relayAll path message r).2 := by
  induction path generalizing message r with
  | nil => rfl
  | cons first path ih => exact ih ..

theorem Stays.relay {frame : Frame ρ ε} (h : frame.Stays) (message : String) (r : ρ) :
    (frame.relay message r).2 = r := by
  cases frame with
  | adjusting adjustment start =>
    cases adjustment with
    | guard => exact (h start rfl).elim
    | _ => rfl
  | _ => rfl

theorem Repeats.relay {frame : Frame ρ ε} (h : frame.Repeats) (message : String) (r : ρ) :
    (frame.relay message r).1 = message := by
  cases frame with
  | adjusting adjustment start =>
    cases adjustment with
    | errorMessage other => exact (h other start rfl).elim
    | _ => rfl
  | _ => rfl

/-- Only a guard on the path moves an error. -/
theorem relayAll_position {path : List (Frame ρ ε)} (h : ∀ frame ∈ path, frame.Stays)
    (message : String) (r : ρ) : (relayAll path message r).2 = r := by
  induction path generalizing message r with
  | nil => rfl
  | cons frame path ih =>
    have stays := (h frame List.mem_cons_self).relay message r
    rw [relayAll, ih fun other hm => h other (List.mem_cons_of_mem _ hm), stays]

/-- Only a message for errors on the path gives an error another text. -/
theorem relayAll_message {path : List (Frame ρ ε)} (h : ∀ frame ∈ path, frame.Repeats)
    (message : String) (r : ρ) : (relayAll path message r).1 = message := by
  induction path generalizing message r with
  | nil => rfl
  | cons frame path ih =>
    have repeats := (h frame List.mem_cons_self).relay message r
    rw [relayAll, ih fun other hm => h other (List.mem_cons_of_mem _ hm), repeats]

theorem resume_error [Reader ρ ε] [Element ε] {frame : Frame ρ ε} (h : frame.HandsOn)
    (message : String) (r : ρ) (store : Store) :
    frame.resume (.error message r) store =
      (.done (.error (frame.relay message r).1 (frame.relay message r).2), store) := by
  cases frame with
  | comparing other stopped => exact h.elim
  | adjusting adjustment start =>
    cases adjustment with
    | negate => exact h.elim
    | _ => rfl
  | _ => rfl

end Frame

end SafeDescent
