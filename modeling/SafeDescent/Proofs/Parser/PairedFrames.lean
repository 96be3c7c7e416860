import SafeDescent.Proofs.Parser.PairedOutcomes
import SafeDescent.Proofs.Trampoline.Simulation

namespace SafeDescent

variable {ρ ρ' ε : Type} [Reader ρ ε] [Reader ρ' ε]

/-- What goes together in two parses that go side by side. How parsers start is left to the two
parses; that frames then go on alike follows from what is required here. -/
structure Pairing (ρ ρ' ε : Type) [Reader ρ ε] [Reader ρ' ε] where
  parsers : Parser ε → Parser ε → Prop
  starts : Start ρ ε → Start ρ' ε → Prop
  outcomes : Outcome ρ Value → Outcome ρ' Value → Prop
  positions : ρ → ρ' → Prop
  messages : String → String → Prop
  adjustments : Adjustment → Prop
  start {parser parser' : Parser ε} {input : ρ} {input' : ρ'} :
    parsers parser parser' → positions input input' → starts ⟨parser, input⟩ ⟨parser', input'⟩
  /-- A chain goes on with a repetition of its separator and its operand. -/
  operations {bounds : Bounds} {operand operand' separator separator' : Parser ε} :
    parsers operand operand' → parsers separator separator' →
      parsers (.many bounds (.sequence Value.pair separator operand))
        (.many bounds (.sequence Value.pair separator' operand'))
  outcomes_iff {outcome : Outcome ρ Value} {outcome' : Outcome ρ' Value} :
    outcomes outcome outcome' ↔ Outcome.Paired messages positions outcome outcome'
  corresponds : Reader.Corresponds positions
  same (message : String) : messages message message
  spans : SpansAgree adjustments positions

/-- Parsers that have the same outcomes at the same positions. -/
def Pairing.sameOutcomes (parsers : Parser ε → Parser ε → Prop)
    (starts : Start ρ ε → Start ρ ε → Prop)
    (start : ∀ {parser parser' : Parser ε} {input : ρ},
      parsers parser parser' → starts ⟨parser, input⟩ ⟨parser', input⟩)
    (operations : ∀ {bounds : Bounds} {operand operand' separator separator' : Parser ε},
      parsers operand operand' → parsers separator separator' →
        parsers (.many bounds (.sequence Value.pair separator operand))
          (.many bounds (.sequence Value.pair separator' operand'))) : Pairing ρ ρ ε where
  parsers := parsers
  starts := starts
  outcomes := Eq
  positions := Eq
  messages := Eq
  adjustments := fun _ => True
  start hp hr := hr ▸ start hp
  operations := operations
  outcomes_iff := Outcome.paired_eq_iff.symm
  corresponds := Reader.corresponds_eq
  same := Eq.refl
  spans := spansAgree_eq

/-- Frames that do the same with parsers, positions and messages that go together. -/
inductive Frame.Paired (pairing : Pairing ρ ρ' ε) : Frame ρ ε → Frame ρ' ε → Prop
  | following {combine : Value → Value → Value} {second second' : Parser ε} :
      pairing.parsers second second' →
        Frame.Paired pairing (.following combine second) (.following combine second')
  | joining (combine : Value → Value → Value) (first : Value) :
      Frame.Paired pairing (.joining combine first) (.joining combine first)
  | otherwise {second second' : Parser ε} {start : ρ} {start' : ρ'} :
      pairing.parsers second second' → pairing.positions start start' →
        Frame.Paired pairing (.otherwise second start) (.otherwise second' start')
  | comparing {message message' : String} {stopped : ρ} {stopped' : ρ'} :
      pairing.messages message message' → pairing.positions stopped stopped' →
        Frame.Paired pairing (.comparing message stopped) (.comparing message' stopped')
  | repeating {bounds : Bounds} {body body' : Parser ε} {values : Array Value} {start : ρ}
      {start' : ρ'} : pairing.parsers body body' → pairing.positions start start' →
        Frame.Paired pairing (.repeating bounds body values start)
          (.repeating bounds body' values start')
  | opening {join : Value → Value → Value → Value} {bounds : Bounds}
      {operand operand' separator separator' : Parser ε} {start : ρ} {start' : ρ'} :
      pairing.parsers operand operand' → pairing.parsers separator separator' →
      pairing.positions start start' →
        Frame.Paired pairing (.opening join bounds operand separator start)
          (.opening join bounds operand' separator' start')
  | folding (join : Value → Value → Value → Value) (first : Value) :
      Frame.Paired pairing (.folding join first) (.folding join first)
  | adjusting {adjustment : Adjustment} {start : ρ} {start' : ρ'} :
      pairing.adjustments adjustment → pairing.positions start start' →
        Frame.Paired pairing (.adjusting adjustment start) (.adjusting adjustment start')
  | choosing {next next' : Value → Parser ε} :
      (∀ v path path',
        pairing.parsers ((next v).place false path) ((next' v).place false path')) →
        Frame.Paired pairing (.choosing next) (.choosing next')
  | selecting {index : Value → Nat} {branches branches' : Nat → Parser ε} :
      (∀ i, pairing.parsers (branches i) (branches' i)) →
        Frame.Paired pairing (.selecting index branches) (.selecting index branches')
  | leaving (id : String) : Frame.Paired pairing (.leaving id) (.leaving id)

/-- Computations of one shape with starts, frames and outcomes that go together. -/
abbrev Run.Paired (pairing : Pairing ρ ρ' ε) (run : Run ρ ε) (run' : Run ρ' ε) : Prop :=
  Trampoline.Related pairing.starts (Frame.Paired pairing) pairing.outcomes run run'

namespace Pairing

variable (pairing : Pairing ρ ρ' ε) {r start : ρ} {r' start' : ρ'} {message message' : String}

theorem success (value : Value) (hr : pairing.positions r r') :
    pairing.outcomes (.success value r) (.success value r') :=
  pairing.outcomes_iff.mpr (.success value hr)

theorem failure (hm : pairing.messages message message') (hr : pairing.positions r r') :
    pairing.outcomes (.failure message r) (.failure message' r') :=
  pairing.outcomes_iff.mpr (.failure hm hr)

theorem error (hm : pairing.messages message message') (hr : pairing.positions r r') :
    pairing.outcomes (.error message r) (.error message' r') :=
  pairing.outcomes_iff.mpr (.error hm hr)

variable {parser parser' body body' operand operand' separator separator' : Parser ε}

theorem run_start (hp : pairing.parsers parser parser') (hr : pairing.positions r r')
    {frame : Frame ρ ε} {frame' : Frame ρ' ε} (hf : frame.Paired pairing frame') :
    Run.Paired pairing (.start parser r frame) (.start parser' r' frame') :=
  .flatMap (.more (pairing.start hp hr)) hf

theorem run_round (hb : pairing.parsers body body') (bounds : Bounds) (values : Array Value)
    (hr : pairing.positions r r') :
    Run.Paired pairing (.round bounds body values r) (.round bounds body' values r') := by
  unfold Run.round
  split
  · exact .done (pairing.success _ hr)
  · exact pairing.run_start hb hr (.repeating hb hr)

variable {outcome : Outcome ρ Value} {outcome' : Outcome ρ' Value}

/-- How a repetition goes on is decided by the kind and the position of a round's outcome. -/
theorem afterRound (hb : pairing.parsers body body') (bounds : Bounds) (values : Array Value)
    (hs : pairing.positions start start') (ho : pairing.outcomes outcome outcome') :
    Run.Paired pairing (afterRound bounds body values start outcome)
      (afterRound bounds body' values start' outcome') := by
  cases pairing.outcomes_iff.mp ho with
  | success value hr =>
    have stalled := pairing.corresponds.offset_eq hr hs
    simp only [SafeDescent.afterRound, stalled]
    split
    · exact .done (pairing.success _ hr)
    · exact pairing.run_round hb bounds _ hr
  | failure hm hr =>
    simp only [SafeDescent.afterRound]
    split
    · exact .done (pairing.success _ hs)
    · exact .done ho
  | error hm hr => exact .done ho

theorem afterOperand (ho : pairing.parsers operand operand')
    (hs : pairing.parsers separator separator') (join : Value → Value → Value → Value)
    (bounds : Bounds) (hr : pairing.positions start start')
    (h : pairing.outcomes outcome outcome') :
    Run.Paired pairing (afterOperand join bounds operand separator start outcome)
      (afterOperand join bounds operand' separator' start' outcome') := by
  cases pairing.outcomes_iff.mp h with
  | success value hn =>
    exact pairing.run_start (pairing.operations ho hs) hn (.folding join value)
  | failure hm hn =>
    simp only [SafeDescent.afterOperand]
    split
    · exact .done (pairing.success _ hr)
    · exact .done h
  | error hm hn => exact .done h

variable [Element ε]

/-- Frames that go together go on alike with outcomes that do, whatever the stores. -/
theorem resume {frame : Frame ρ ε} {frame' : Frame ρ' ε} (hf : frame.Paired pairing frame')
    (ho : pairing.outcomes outcome outcome') (store store' : Store) :
    Run.Paired pairing (frame.resume outcome store).1 (frame'.resume outcome' store').1 := by
  have paired := pairing.outcomes_iff.mp ho
  cases hf with
  | following hb =>
    cases paired with
    | success value hr => exact pairing.run_start hb hr (.joining _ value)
    | failure hm hr => exact .done ho
    | error hm hr => exact .done ho
  | joining combine first => exact .done (pairing.outcomes_iff.mpr (paired.map (combine first)))
  | otherwise hb hs =>
    cases paired with
    | success value hr => exact .done ho
    | failure hm hr => exact pairing.run_start hb hs (.comparing hm hr)
    | error hm hr => exact .done ho
  | comparing hm hs =>
    exact .done (pairing.outcomes_iff.mpr (paired.furthest pairing.corresponds hm hs))
  | repeating hb hs => exact pairing.afterRound hb _ _ hs ho
  | opening hp hb hs => exact pairing.afterOperand hp hb _ _ hs ho
  | folding join first => exact .done (pairing.outcomes_iff.mpr (paired.map _))
  | adjusting ha hs =>
    exact .done (pairing.outcomes_iff.mpr
      (paired.adjust pairing.corresponds pairing.same pairing.spans ha hs))
  | choosing hn =>
    cases paired with
    | success value hr => exact .more (pairing.start (hn value _ _) hr)
    | failure hm hr => exact .done ho
    | error hm hr => exact .done ho
  | selecting hb =>
    cases paired with
    | success value hr => exact .more (pairing.start (hb _) hr)
    | failure hm hr => exact .done ho
    | error hm hr => exact .done ho
  | leaving id => exact .done ho

end Pairing

end SafeDescent
