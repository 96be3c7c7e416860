import SafeDescent.Parser.Machine
import SafeDescent.Proofs.Parser.StoreUpdates
import SafeDescent.Proofs.Trampoline.Simulation

namespace SafeDescent

variable {ρ ε : Type}

/-- The definition that a start asks for. A copy asks for a definition of its own. -/
def Start.site? (library : Library ε) (start : Start ρ ε) : Option Site :=
  match start.parser with
  | .deferred site _ => some site
  | .fixpoint site _ _ => some site
  | .copied site name _ => if (library name).isSome then some site else none
  | _ => none

/-- The start asks for the definition whose building is remembered under the path. -/
def Start.Uses (library : Library ε) (start : Start ρ ε) (path : List Nat) : Prop :=
  ∃ site, start.site? library = some site ∧ site.path = path

section All

variable {I : Start ρ ε → Prop} {K : Frame ρ ε → Prop} {V : Outcome ρ Value → Prop} {R : ρ → Prop}

theorem Run.round_all {bounds : Bounds} {body : Parser ε} {values : Array Value} {input : ρ}
    (hi : I ⟨body, input⟩) (hk : K (.repeating bounds body values input))
    (hv : ∀ value, V (.success value input)) : (Run.round bounds body values input).All I K V := by
  unfold Run.round
  split
  · exact .done (hv _)
  · exact .flatMap (.more hi) hk

theorem afterOperand_all {join : Value → Value → Value → Value} {bounds : Bounds}
    {operand separator : Parser ε} {start : ρ} {outcome : Outcome ρ Value}
    (hi : ∀ input, R input →
      I ⟨.many bounds.afterFirst (.sequence Value.pair separator operand), input⟩)
    (hk : ∀ value, K (.folding join value)) (hv : ∀ value r, R r → V (.success value r))
    (hs : R start) (hr : R outcome.remaining) (ho : V outcome) :
    (afterOperand join bounds operand separator start outcome).All I K V := by
  cases outcome with
  | success value r => exact .flatMap (.more (hi r hr)) (hk value)
  | failure message r =>
    simp only [afterOperand]
    split
    · exact .done (hv _ _ hs)
    · exact .done ho
  | error message r => exact .done ho

theorem afterRound_all [Reader ρ ε] {bounds : Bounds} {body : Parser ε} {values : Array Value}
    {start : ρ} {outcome : Outcome ρ Value} (hi : ∀ input, R input → I ⟨body, input⟩)
    (hk : ∀ values input, R input → K (.repeating bounds body values input))
    (hv : ∀ value r, R r → V (.success value r)) (hs : R start) (hr : R outcome.remaining)
    (ho : V outcome) : (afterRound bounds body values start outcome).All I K V := by
  cases outcome with
  | success value r =>
    simp only [afterRound]
    split
    · exact .done (hv _ _ hr)
    · exact Run.round_all (hi r hr) (hk _ r hr) fun value => hv value r hr
  | failure message r =>
    simp only [afterRound]
    split
    · exact .done (hv _ _ hs)
    · exact .done ho
  | error message r => exact .done ho

end All

/-- The parsers that a frame is going to start, and those that its function makes. -/
def Frame.All (later made : Parser ε → Prop) : Frame ρ ε → Prop
  | .following _ second => later second
  | .otherwise second _ => later second
  | .repeating _ body _ _ => later body
  | .opening _ _ operand separator _ => later operand ∧ later separator
  | .choosing next => ∀ v, made (next v)
  | .selecting _ branches => ∀ i, later (branches i)
  | .joining _ _ | .comparing _ _ | .folding _ _ | .adjusting _ _ | .leaving _ => True

theorem Frame.All.imp {later made later' made' : Parser ε → Prop} {frame : Frame ρ ε}
    (h : frame.All later made) (hl : ∀ parser, later parser → later' parser)
    (hm : ∀ parser, made parser → made' parser) : frame.All later' made' := by
  cases frame with
  | opening join bounds operand separator start => exact ⟨hl _ h.1, hl _ h.2⟩
  | choosing next => exact fun v => hm _ (h v)
  | selecting index branches => exact fun i => hl _ (h i)
  | following | otherwise | repeating => exact hl _ h
  | joining | comparing | folding | adjusting | leaving => trivial

/-- The parsers that a parser starts at once, those that it is going to start, and those that its
function makes. -/
def Parser.Opens (library : Library ε) (started later made : Parser ε → Prop) : Parser ε → Prop
  | .primitive _ => True
  | .sequence _ first second => started first ∧ later second
  | .choice first second => started first ∧ later second
  | .many _ body => later body
  | .chain _ _ operand separator => later operand ∧ later separator
  | .adjust _ body => started body
  | .flatMap body next => started body ∧ ∀ v, made (next v)
  | .select body _ branches => started body ∧ ∀ i, later (branches i)
  | .tap _ body => started body
  | .deferred _ body => started body
  | .fixpoint site name body => started (.unfold site name body)
  | .copied site name scope => ∀ body, library name = some body →
    started ((body.substitute scope).place site.kept (0 :: site.path))
  | .reference _ => True
  | .handle site name body => started (.fixpoint site name body)
  | .shared body => started body

variable [Reader ρ ε] [Element ε]

theorem Frame.resume_all {started later made : Parser ε → Prop} {frame : Frame ρ ε} {store : Store}
    (h : frame.All later made) (imp : ∀ parser, later parser → started parser)
    (rest : ∀ bounds operand separator, later operand → later separator →
      started (.many bounds (.sequence Value.pair separator operand)))
    (fresh : ∀ next v, frame = .choosing next → started ((next v).place false [store.roots]))
    (outcome : Outcome ρ Value) :
    (frame.resume outcome store).1.All (fun start => started start.parser) (Frame.All later made)
      fun _ => True := by
  cases frame with
  | following combine second =>
    cases outcome with
    | success value r => exact .flatMap (.more (imp _ h)) trivial
    | failure message r => exact .done trivial
    | error message r => exact .done trivial
  | joining combine first => exact .done trivial
  | otherwise second start =>
    cases outcome with
    | success value r => exact .done trivial
    | failure message r => exact .flatMap (.more (imp _ h)) trivial
    | error message r => exact .done trivial
  | comparing message stopped => exact .done trivial
  | repeating bounds body values start =>
    exact afterRound_all (R := fun _ => True) (fun _ _ => imp _ h) (fun _ _ _ => h)
      (fun _ _ _ => trivial) trivial trivial trivial
  | opening join bounds operand separator start =>
    exact afterOperand_all (R := fun _ => True) (fun _ _ => rest _ _ _ h.1 h.2) (fun _ => trivial)
      (fun _ _ _ => trivial) trivial trivial trivial
  | folding join first => exact .done trivial
  | adjusting adjustment start => exact .done trivial
  | choosing next =>
    cases outcome with
    | success value r => exact .more (fresh next value rfl)
    | failure message r => exact .done trivial
    | error message r => exact .done trivial
  | selecting index branches =>
    cases outcome with
    | success value r => exact .more (imp _ (h _))
    | failure message r => exact .done trivial
    | error message r => exact .done trivial
  | leaving id => exact .done trivial

/-- A frame only takes a number for a parser and records an event. -/
theorem Frame.resume_store (frame : Frame ρ ε) (outcome : Outcome ρ Value) (store : Store) :
    ∃ roots events,
      (frame.resume outcome store).2 = { store with roots := roots, events := events } := by
  cases frame with
  | choosing next => cases outcome <;> exact ⟨_, _, rfl⟩
  | leaving id =>
    simp only [Frame.resume]
    split <;> exact ⟨_, _, rfl⟩
  | _ => exact ⟨_, _, rfl⟩

theorem Frame.resume_built (frame : Frame ρ ε) (outcome : Outcome ρ Value) (store : Store) :
    (frame.resume outcome store).2.built = store.built := by
  obtain ⟨roots, events, same⟩ := frame.resume_store outcome store
  rw [same]

theorem Frame.resume_records (frame : Frame ρ ε) (outcome : Outcome ρ Value) (store : Store) :
    (frame.resume outcome store).2.records = store.records := by
  obtain ⟨roots, events, same⟩ := frame.resume_store outcome store
  rw [same]

theorem Frame.resume_handles (frame : Frame ρ ε) (outcome : Outcome ρ Value) (store : Store) :
    (frame.resume outcome store).2.handles = store.handles := by
  obtain ⟨roots, events, same⟩ := frame.resume_store outcome store
  rw [same]

variable [DecidableEq ε]

theorem Start.call_all {library : Library ε} {started later made : Parser ε → Prop}
    {start : Start ρ ε} (h : start.parser.Opens library started later made)
    (imp : ∀ parser, later parser → started parser) (store : Store) :
    (start.call library store).1.All (fun start => started start.parser) (Frame.All later made)
      fun _ => True := by
  obtain ⟨parser, input⟩ := start
  change parser.Opens library started later made at h
  cases parser with
  | primitive p => exact .done trivial
  | sequence combine first second => exact .flatMap (.more h.1) h.2
  | choice first second => exact .flatMap (.more h.1) h.2
  | many bounds body =>
    have hb : later body := h
    exact Run.round_all (imp _ hb) hb fun _ => trivial
  | chain join bounds operand separator =>
    simp only [Start.call]
    split
    · exact .done trivial
    · exact .flatMap (.more (imp _ h.1)) h
  | adjust adjustment body => exact .flatMap (.more h) trivial
  | flatMap body next => exact .flatMap (.more h.1) h.2
  | select body index branches => exact .flatMap (.more h.1) h.2
  | tap id body => exact .flatMap (.more h) trivial
  | deferred site body => exact .more h
  | fixpoint site name body => exact .more h
  | copied site name scope =>
    simp only [Start.call]
    cases defined : library name with
    | none => exact .done trivial
    | some body => exact .more (h body defined)
  | reference target => exact .done trivial
  | handle site name body =>
    simp only [Start.call]
    split
    · exact .more h
    · exact .done trivial
  | shared body => exact .more h

end SafeDescent
