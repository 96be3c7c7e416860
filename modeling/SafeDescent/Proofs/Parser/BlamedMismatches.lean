import SafeDescent.Proofs.Parser.Alike
import SafeDescent.Proofs.Parser.Outcome
import SafeDescent.Proofs.Parser.Substitution
import SafeDescent.Proofs.Reader.Ahead

namespace SafeDescent

variable {ρ ε : Type}

namespace Parser

variable {primitives : Primitive ε → Prop} {adjustments : Adjustment → Prop} {parser : Parser ε}

theorem MadeOf.place (h : parser.MadeOf primitives adjustments) (kept : Bool) (path : List Nat) :
    (parser.place kept path).MadeOf primitives adjustments := by
  induction parser generalizing kept path with
  | sequence combine first second ih₁ ih₂ => exact ⟨ih₁ h.1 .., ih₂ h.2 ..⟩
  | choice first second ih₁ ih₂ => exact ⟨ih₁ h.1 .., ih₂ h.2 ..⟩
  | many bounds body ih => exact ih h ..
  | chain join bounds operand separator ih₁ ih₂ => exact ⟨ih₁ h.1 .., ih₂ h.2 ..⟩
  | adjust adjustment body ih => exact ⟨h.1, ih h.2 ..⟩
  | flatMap body next ih _ => exact ⟨ih h.1 .., h.2⟩
  | select body index branches ih₁ ih₂ => exact ⟨ih₁ h.1 .., fun i => ih₂ i (h.2 i) ..⟩
  | tap id body ih => exact ih h ..
  | deferred site body ih => exact ih h ..
  | fixpoint site name body ih => exact ih h ..
  | _ => exact h

theorem MadeOf.substitute (h : parser.MadeOf primitives adjustments)
    {meaning : Reference → Parser ε}
    (hm : ∀ target, (meaning target).MadeOf primitives adjustments) :
    (parser.substitute meaning).MadeOf primitives adjustments := by
  induction parser generalizing meaning with
  | sequence combine first second ih₁ ih₂ => exact ⟨ih₁ h.1 hm, ih₂ h.2 hm⟩
  | choice first second ih₁ ih₂ => exact ⟨ih₁ h.1 hm, ih₂ h.2 hm⟩
  | many bounds body ih => exact ih h hm
  | chain join bounds operand separator ih₁ ih₂ => exact ⟨ih₁ h.1 hm, ih₂ h.2 hm⟩
  | adjust adjustment body ih => exact ⟨h.1, ih h.2 hm⟩
  | flatMap body next ih₁ ih₂ => exact ⟨ih₁ h.1 hm, fun v => ih₂ v (h.2 v) hm⟩
  | select body index branches ih₁ ih₂ => exact ⟨ih₁ h.1 hm, fun i => ih₂ i (h.2 i) hm⟩
  | tap id body ih => exact ih h hm
  | deferred site body ih => exact ih h hm
  | fixpoint site name body ih =>
    refine ih h fun target => ?_
    split
    · trivial
    · exact hm target
  | copied site name scope ih => exact fun target => ih target (h target) hm
  | reference target => exact hm target
  | _ => exact h

theorem MadeOf.unfold (h : parser.MadeOf primitives adjustments) (site : Site) (name : String) :
    (Parser.unfold site name parser).MadeOf primitives adjustments := by
  refine h.substitute fun target => ?_
  unfold only
  split
  · exact h
  · trivial

end Parser

/-- What the definitions of a library are made of. -/
def Library.MadeOf (library : Library ε) (primitives : Primitive ε → Prop)
    (adjustments : Adjustment → Prop) : Prop :=
  ∀ name body, library name = some body → Parser.MadeOf primitives adjustments body

/-- A failure or an error of a parse has a cause of its kind. -/
def Outcome.Faulty (failing erring : String → ρ → Prop) : Outcome ρ Value → Prop
  | .success _ _ => True
  | .failure message r => failing message r
  | .error message r => erring message r

/-- The adjustment keeps the causes of failures and errors. -/
def Adjustment.Faithful [Reader ρ ε] [Element ε] (adjustment : Adjustment)
    (failing erring : String → ρ → Prop) : Prop :=
  ∀ (start : ρ) (outcome : Outcome ρ Value), outcome.Faulty failing erring →
    (adjustment.apply start outcome).Faulty failing erring

/-- The parsers that a frame is going to start are made of the given parts, and a failure that
it keeps has a cause. -/
def Frame.Faulty [Reader ρ ε] [Element ε] (primitives : Primitive ε → Prop)
    (adjustments : Adjustment → Prop) (failing erring : String → ρ → Prop) : Frame ρ ε → Prop
  | .following _ second => second.MadeOf primitives adjustments
  | .otherwise second _ => second.MadeOf primitives adjustments
  | .comparing message stopped => failing message stopped
  | .repeating _ body _ _ => body.MadeOf primitives adjustments
  | .opening _ _ operand separator _ =>
    operand.MadeOf primitives adjustments ∧ separator.MadeOf primitives adjustments
  | .adjusting adjustment _ => adjustment.Faithful failing erring
  | .choosing next => ∀ v, (next v).MadeOf primitives adjustments
  | .selecting _ branches => ∀ i, (branches i).MadeOf primitives adjustments
  | .joining _ _ | .folding _ _ | .leaving _ => True

section

variable {primitives : Primitive ε → Prop} {adjustments : Adjustment → Prop}
  {failing erring : String → ρ → Prop} {outcome : Outcome ρ Value}

theorem Outcome.Faulty.map (h : outcome.Faulty failing erring) (f : Value → Value) :
    (outcome.map f).Faulty failing erring := by
  cases outcome <;> exact h

theorem Outcome.Faulty.furthest [Reader ρ ε] (h : outcome.Faulty failing erring)
    {message : String} {stopped : ρ} (first : failing message stopped) :
    (outcome.furthest message stopped).Faulty failing erring := by
  cases outcome with
  | success value r => trivial
  | failure other r =>
    rw [Outcome.furthest_failure]
    split
    · exact h
    · exact first
  | error other r =>
    rw [Outcome.furthest_error]
    split
    · exact h
    · exact first

end

/-- What a mismatch found instead of what was expected, if the input did not end there. -/
def Mismatch.found : Mismatch ε → Option ε
  | .nothingAhead => none
  | .missing _ found => found
  | .missingIn _ _ found => found
  | .notAtEnd found => found

/-- The mismatch is with what stands at a position. The end of the input is no mismatch where the
input should end. -/
def Mismatch.Fits [Reader ρ ε] (reason : Mismatch ε) (r : ρ) : Prop :=
  reason.found = Reader.first r ∧ reason ≠ .notAtEnd none

section

variable [Reader ρ ε]

theorem Mismatch.fits_notAtEnd {r : ρ} (h : ¬ Reader.atEnd r = true) :
    (Mismatch.notAtEnd (Reader.first r)).Fits r := by
  refine ⟨rfl, fun ended => h ?_⟩
  rw [Reader.atEnd, Mismatch.notAtEnd.inj ended]
  rfl

end

variable [Reader ρ ε] [Element ε] [DecidableEq ε]

theorem matchLiteral_cases (literal rest : List ε) (r : ρ) :
    (∃ value next, matchLiteral literal rest r = .success value next) ∨
      ∃ reason stopped, matchLiteral literal rest r = .mismatch reason stopped ∧
        reason.Fits stopped := by
  induction rest generalizing r with
  | nil => exact .inl ⟨_, _, rfl⟩
  | cons expected rest ih =>
    unfold matchLiteral
    split
    next x next read =>
      split
      · exact ih next
      · exact .inr ⟨_, _, rfl, (Reader.read_eq_some_iff.mp read).1.symm, nofun⟩
    next ended => exact .inr ⟨_, _, rfl, (Reader.read_eq_none_iff.mp ended).symm, nofun⟩

/-- A primitive parser that is not made to stop succeeds, or reports a mismatch with what stands
at the position that it reports. -/
theorem Primitive.run_cases (p : Primitive ε) (r : ρ) :
    (∃ value next, p.run r = .success value next) ∨
      (∃ message, p = .fail message ∧ p.run r = .failure message r) ∨
      (∃ message, p = .fatal message ∧ p.run r = .error message r) ∨
      ∃ reason stopped, p.run r = .mismatch reason stopped ∧ reason.Fits stopped := by
  have mismatch {reason : Mismatch ε} {stopped : ρ} (fits : reason.Fits stopped) :
      ∃ reason' stopped', (.mismatch reason stopped : Outcome ρ Value) = .mismatch reason' stopped' ∧
        reason'.Fits stopped' := ⟨reason, stopped, rfl, fits⟩
  cases p with
  | succeed value => exact .inl ⟨value, r, rfl⟩
  | fail message => exact .inr (.inl ⟨message, rfl, rfl⟩)
  | fatal message => exact .inr (.inr (.inl ⟨message, rfl, rfl⟩))
  | any =>
    simp only [Primitive.run]
    split
    next x next read => exact .inl ⟨_, _, rfl⟩
    next ended => exact .inr (.inr (.inr (mismatch ⟨(Reader.read_eq_none_iff.mp ended).symm, by simp⟩)))
  | satisfy accepts expected =>
    simp only [Primitive.run]
    split
    next x next read =>
      split
      · exact .inl ⟨_, _, rfl⟩
      · exact .inr (.inr (.inr (mismatch ⟨(Reader.read_eq_some_iff.mp read).1.symm, by simp⟩)))
    next ended => exact .inr (.inr (.inr (mismatch ⟨(Reader.read_eq_none_iff.mp ended).symm, by simp⟩)))
  | literal expected =>
    rcases matchLiteral_cases expected expected r with matched | stopped
    · exact .inl matched
    · exact .inr (.inr (.inr stopped))
  | endOfInput =>
    simp only [Primitive.run]
    split
    · exact .inl ⟨_, _, rfl⟩
    next more => exact .inr (.inr (.inr (mismatch (Mismatch.fits_notAtEnd more))))

end SafeDescent
