import SafeDescent.Proofs.Parser.Alike
import SafeDescent.Proofs.Parser.PairedOutcomes

namespace SafeDescent

variable {ρ ρ' ε : Type}

/-- Outcomes of one kind, with the same value or message, that stopped at related positions. -/
inductive Outcome.Related {α : Type} (R : ρ → ρ' → Prop) : Outcome ρ α → Outcome ρ' α → Prop
  | success (value : α) {r : ρ} {r' : ρ'} : R r r' →
      Outcome.Related R (.success value r) (.success value r')
  | failure (message : String) {r : ρ} {r' : ρ'} : R r r' →
      Outcome.Related R (.failure message r) (.failure message r')
  | error (message : String) {r : ρ} {r' : ρ'} : R r r' →
      Outcome.Related R (.error message r) (.error message r')

/-- Parsers that are alike, about to start at related positions. -/
def Start.Related (adjustments : Adjustment → Prop) (R : ρ → ρ' → Prop) (start : Start ρ ε)
    (start' : Start ρ' ε) : Prop :=
  Parser.Alike adjustments start.parser start'.parser ∧ R start.input start'.input

/-- Libraries whose definitions are alike. -/
def Library.Alike (adjustments : Adjustment → Prop) (library library' : Library ε) : Prop :=
  ∀ name, Option.Rel (Parser.Alike adjustments) (library name) (library' name)

variable {R : ρ → ρ' → Prop}

theorem Outcome.related_iff_paired {α : Type} {outcome : Outcome ρ α} {outcome' : Outcome ρ' α} :
    Outcome.Related R outcome outcome' ↔ Outcome.Paired Eq R outcome outcome' := by
  constructor
  · intro h
    cases h with
    | success value hr => exact .success value hr
    | failure message hr => exact .failure rfl hr
    | error message hr => exact .error rfl hr
  · intro h
    cases h with
    | success value hr => exact .success value hr
    | failure hm hr => exact hm ▸ .failure _ hr
    | error hm hr => exact hm ▸ .error _ hr

theorem Outcome.Related.eq {α : Type} {outcome outcome' : Outcome ρ α}
    (h : Outcome.Related Eq outcome outcome') : outcome = outcome' :=
  Outcome.paired_eq_iff.mp (Outcome.related_iff_paired.mp h)

variable [Reader ρ ε] [Reader ρ' ε] [Element ε]

theorem Outcome.Related.finish (h : Reader.Corresponds R) {outcome : Outcome ρ Value}
    {outcome' : Outcome ρ' Value} (ho : Outcome.Related R outcome outcome') (extent : Extent) :
    Outcome.Related R (extent.finish outcome) (extent.finish outcome') :=
  Outcome.related_iff_paired.mpr
    ((Outcome.related_iff_paired.mp ho).finish h (fun _ => rfl) extent)

variable [DecidableEq ε]

theorem matchLiteral_related (h : Reader.Corresponds R) (literal rest : List ε) {r : ρ} {r' : ρ'}
    (hr : R r r') :
    Outcome.Related R (matchLiteral literal rest r) (matchLiteral literal rest r') := by
  induction rest generalizing r r' with
  | nil => exact .success _ hr
  | cons expected rest ih =>
    simp only [matchLiteral]
    rcases h.read_cases hr with ⟨hn, hn'⟩ | ⟨x, next, next', hx, hx', hnext⟩
    · rw [hn, hn']
      exact .failure _ hr
    · rw [hx, hx']
      dsimp only
      split
      · exact ih hnext
      · exact .failure _ hr

theorem Primitive.run_related (h : Reader.Corresponds R) (p : Primitive ε) {r : ρ} {r' : ρ'}
    (hr : R r r') : Outcome.Related R (p.run r) (p.run r') := by
  cases p with
  | succeed value => exact .success value hr
  | fail message => exact .failure message hr
  | fatal message => exact .error message hr
  | any =>
    simp only [Primitive.run]
    rcases h.read_cases hr with ⟨hn, hn'⟩ | ⟨x, next, next', hx, hx', hnext⟩
    · rw [hn, hn']
      exact .failure _ hr
    · rw [hx, hx']
      exact .success _ hnext
  | satisfy accepts expected =>
    simp only [Primitive.run]
    rcases h.read_cases hr with ⟨hn, hn'⟩ | ⟨x, next, next', hx, hx', hnext⟩
    · rw [hn, hn']
      exact .failure _ hr
    · rw [hx, hx']
      dsimp only
      split
      · exact .success _ hnext
      · exact .failure _ hr
  | literal expected => exact matchLiteral_related h expected expected hr
  | endOfInput =>
    simp only [Primitive.run, Outcome.mismatch, h.atEnd hr, h.first hr]
    split
    · exact .success _ hr
    · exact .failure _ hr

end SafeDescent
