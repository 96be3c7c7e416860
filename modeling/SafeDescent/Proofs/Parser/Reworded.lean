import SafeDescent.Parser

namespace SafeDescent

variable {ε : Type}

/-- The adjustment gives a failure or an error another message, and does nothing else. -/
def Adjustment.rewords : Adjustment → Bool
  | .failureMessage _ | .errorMessage _ => true
  | _ => false

/-- Primitive parsers that differ at most in the texts they were given for their messages. -/
inductive Primitive.Reworded : Primitive ε → Primitive ε → Prop
  | same (p : Primitive ε) : Primitive.Reworded p p
  | fail (message message' : String) : Primitive.Reworded (.fail message) (.fail message')
  | fatal (message message' : String) : Primitive.Reworded (.fatal message) (.fatal message')
  | satisfy (accepts : ε → Bool) (expected expected' : String) :
      Primitive.Reworded (.satisfy accepts expected) (.satisfy accepts expected')

theorem Primitive.Reworded.symm {p p' : Primitive ε} (h : p.Reworded p') : p'.Reworded p := by
  cases h with
  | same => exact .same _
  | fail message message' => exact .fail message' message
  | fatal message message' => exact .fatal message' message
  | satisfy accepts expected expected' => exact .satisfy accepts expected' expected

namespace Parser

/-- Parsers that differ at most in the texts they were given for their messages, and in
adjustments of messages that stand at any places in one of them and not in the other one. Two
adjustments with different messages are a special case: each stands in one parser only. The paths
and labels of definitions do not count. -/
inductive Reworded : Parser ε → Parser ε → Prop
  | primitive {p p' : Primitive ε} : p.Reworded p' → Reworded (.primitive p) (.primitive p')
  | sequence {combine : Value → Value → Value} {first first' second second' : Parser ε} :
      Reworded first first' → Reworded second second' →
        Reworded (.sequence combine first second) (.sequence combine first' second')
  | choice {first first' second second' : Parser ε} : Reworded first first' →
      Reworded second second' → Reworded (.choice first second) (.choice first' second')
  | many {bounds : Bounds} {body body' : Parser ε} :
      Reworded body body' → Reworded (.many bounds body) (.many bounds body')
  | chain {join : Value → Value → Value → Value} {bounds : Bounds}
      {operand operand' separator separator' : Parser ε} : Reworded operand operand' →
      Reworded separator separator' →
        Reworded (.chain join bounds operand separator) (.chain join bounds operand' separator')
  | adjust {adjustment : Adjustment} {body body' : Parser ε} :
      Reworded body body' → Reworded (.adjust adjustment body) (.adjust adjustment body')
  | flatMap {body body' : Parser ε} {next next' : Value → Parser ε} : Reworded body body' →
      (∀ v, Reworded (next v) (next' v)) → Reworded (.flatMap body next) (.flatMap body' next')
  | select {body body' : Parser ε} {index : Value → Nat} {branches branches' : Nat → Parser ε} :
      Reworded body body' → (∀ i, Reworded (branches i) (branches' i)) →
        Reworded (.select body index branches) (.select body' index branches')
  | tap {id : String} {body body' : Parser ε} :
      Reworded body body' → Reworded (.tap id body) (.tap id body')
  | deferred {site site' : Site} {body body' : Parser ε} :
      Reworded body body' → Reworded (.deferred site body) (.deferred site' body')
  | fixpoint {site site' : Site} {name : String} {body body' : Parser ε} :
      site.kept = site'.kept → Reworded body body' →
        Reworded (.fixpoint site name body) (.fixpoint site' name body')
  | copied {site site' : Site} {name : String} {scope scope' : Reference → Parser ε} :
      site.kept = site'.kept → (∀ target, Reworded (scope target) (scope' target)) →
        Reworded (.copied site name scope) (.copied site' name scope')
  | reference (target : Reference) : Reworded (.reference target) (.reference target)
  | handle {site site' : Site} {name : String} {body body' : Parser ε} :
      site.kept = site'.kept → Reworded body body' →
        Reworded (.handle site name body) (.handle site' name body')
  | shared {body body' : Parser ε} : Reworded body body' → Reworded (.shared body) (.shared body')
  | first {adjustment : Adjustment} {body parser' : Parser ε} : adjustment.rewords = true →
      Reworded body parser' → Reworded (.adjust adjustment body) parser'
  | second {adjustment : Adjustment} {parser body' : Parser ε} : adjustment.rewords = true →
      Reworded parser body' → Reworded parser (.adjust adjustment body')

variable {parser parser' : Parser ε}

theorem Reworded.symm (h : Reworded parser parser') : Reworded parser' parser := by
  induction h with
  | primitive hp => exact .primitive hp.symm
  | sequence _ _ ih₁ ih₂ => exact .sequence ih₁ ih₂
  | choice _ _ ih₁ ih₂ => exact .choice ih₁ ih₂
  | many _ ih => exact .many ih
  | chain _ _ ih₁ ih₂ => exact .chain ih₁ ih₂
  | adjust _ ih => exact .adjust ih
  | flatMap _ _ ih₁ ih₂ => exact .flatMap ih₁ ih₂
  | select _ _ ih₁ ih₂ => exact .select ih₁ ih₂
  | tap _ ih => exact .tap ih
  | deferred _ ih => exact .deferred ih
  | fixpoint hk _ ih => exact .fixpoint hk.symm ih
  | copied hk _ ih => exact .copied hk.symm ih
  | reference target => exact .reference target
  | handle hk _ ih => exact .handle hk.symm ih
  | shared _ ih => exact .shared ih
  | first rewords _ ih => exact .second rewords ih
  | second rewords _ ih => exact .first rewords ih

/-- Giving definitions their sites keeps the relation, though an adjustment more or less makes the
paths differ. -/
theorem Reworded.place (h : Reworded parser parser') (kept : Bool) (path path' : List Nat) :
    Reworded (parser.place kept path) (parser'.place kept path') := by
  induction h generalizing kept path path' with
  | primitive hp => exact .primitive hp
  | sequence _ _ ih₁ ih₂ => exact .sequence (ih₁ ..) (ih₂ ..)
  | choice _ _ ih₁ ih₂ => exact .choice (ih₁ ..) (ih₂ ..)
  | many _ ih => exact .many (ih ..)
  | chain _ _ ih₁ ih₂ => exact .chain (ih₁ ..) (ih₂ ..)
  | adjust _ ih => exact .adjust (ih ..)
  | flatMap _ hn ih _ => exact .flatMap (ih ..) hn
  | select _ _ ih₁ ih₂ => exact .select (ih₁ ..) fun i => ih₂ i ..
  | tap _ ih => exact .tap (ih ..)
  | deferred _ ih => exact .deferred (ih ..)
  | fixpoint _ _ ih => exact .fixpoint rfl (ih ..)
  | copied _ hs _ => exact .copied rfl hs
  | reference target => exact .reference target
  | handle hk hb _ => exact .handle hk hb
  | shared hb _ => exact .shared hb
  | first rewords _ ih => exact .first rewords (ih ..)
  | second rewords _ ih => exact .second rewords (ih ..)

theorem Reworded.substitute (h : Reworded parser parser') {meaning meaning' : Reference → Parser ε}
    (hm : ∀ target, Reworded (meaning target) (meaning' target)) :
    Reworded (parser.substitute meaning) (parser'.substitute meaning') := by
  induction h generalizing meaning meaning' with
  | primitive hp => exact .primitive hp
  | sequence _ _ ih₁ ih₂ => exact .sequence (ih₁ hm) (ih₂ hm)
  | choice _ _ ih₁ ih₂ => exact .choice (ih₁ hm) (ih₂ hm)
  | many _ ih => exact .many (ih hm)
  | chain _ _ ih₁ ih₂ => exact .chain (ih₁ hm) (ih₂ hm)
  | adjust _ ih => exact .adjust (ih hm)
  | flatMap _ _ ih₁ ih₂ => exact .flatMap (ih₁ hm) fun v => ih₂ v hm
  | select _ _ ih₁ ih₂ => exact .select (ih₁ hm) fun i => ih₂ i hm
  | tap _ ih => exact .tap (ih hm)
  | deferred _ ih => exact .deferred (ih hm)
  | fixpoint hk _ ih =>
    refine .fixpoint hk (ih fun target => ?_)
    split
    · exact .reference target
    · exact hm target
  | copied hk _ ih => exact .copied hk fun target => ih target hm
  | reference target => exact hm target
  | handle hk hb _ => exact .handle hk hb
  | shared hb _ => exact .shared hb
  | first rewords _ ih => exact .first rewords (ih hm)
  | second rewords _ ih => exact .second rewords (ih hm)

theorem Reworded.unfold (h : Reworded parser parser') {site site' : Site} {name : String}
    (hk : site.kept = site'.kept) :
    Reworded (Parser.unfold site name parser) (Parser.unfold site' name parser') := by
  refine h.substitute fun target => ?_
  unfold Parser.only
  split
  · exact .handle hk h
  · exact .reference target

end Parser

/-- Libraries whose definitions differ at most in what belongs to messages. -/
def Library.Reworded (library library' : Library ε) : Prop :=
  ∀ name, Option.Rel Parser.Reworded (library name) (library' name)

theorem Library.Reworded.symm {library library' : Library ε} (h : library.Reworded library') :
    library'.Reworded library := by
  intro name
  have defined := h name
  generalize library name = body at defined ⊢
  generalize library' name = body' at defined ⊢
  cases defined with
  | none => exact .none
  | some h => exact .some h.symm

end SafeDescent
