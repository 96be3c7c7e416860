import SafeDescent.Parser.Text
import SafeDescent.Proofs.Parser.HeldDefinitions
import SafeDescent.Proofs.Parser.Outcome
import SafeDescent.Proofs.Parser.Steps
import SafeDescent.Reader.Text

namespace SafeDescent

variable {ρ ε : Type}

/-- The definitions of a library are held where the names that they need lead somewhere. -/
def Library.Held (library : Library ε) (needs : String → Bool → Reference → Prop) : Prop :=
  ∀ name body kept path, library name = some body →
    (body.place kept path).Held library needs (needs name kept)

variable {library : Library ε} {needs : String → Bool → Reference → Prop}

/-- The parsers that a frame is going to start are held. -/
def Frame.Held (library : Library ε) (needs : String → Bool → Reference → Prop) :
    Frame ρ ε → Prop
  | .following _ second => second.Held library needs Parser.nowhere
  | .otherwise second _ => second.Held library needs Parser.nowhere
  | .repeating _ body _ _ => body.Held library needs Parser.nowhere
  | .opening _ _ operand separator _ =>
    operand.Held library needs Parser.nowhere ∧ separator.Held library needs Parser.nowhere
  | .choosing next => ∀ v path, ((next v).place false path).Held library needs Parser.nowhere
  | .selecting _ branches => ∀ i, (branches i).Held library needs Parser.nowhere
  | .joining _ _ | .comparing _ _ | .folding _ _ | .adjusting _ _ | .leaving _ => True

abbrev Run.Held (library : Library ε) (needs : String → Bool → Reference → Prop)
    (run : Run ρ ε) : Prop :=
  run.All (fun start => start.parser.Held library needs Parser.nowhere)
    (Frame.Held library needs) fun _ => True

theorem Frame.held_eq : (Frame.Held library needs : Frame ρ ε → Prop) =
    Frame.All (Parser.Held library needs Parser.nowhere) fun parser =>
      ∀ path, (parser.place false path).Held library needs Parser.nowhere := by
  funext frame
  cases frame <;> rfl

variable [Reader ρ ε]

namespace Store

/-- No reference was found to lead nowhere. -/
def Sound (store : Store) : Prop := ∀ offset, .danglingReference offset ∉ store.records

variable {store : Store}

theorem sound_silence : store.silence.Sound := fun _ => List.not_mem_nil

theorem Sound.note (h : store.Sound) {record : Record}
    (other : ∀ offset, record ≠ .danglingReference offset) : (store.note record).Sound := by
  intro offset noted
  rcases List.mem_cons.mp noted with same | earlier
  · exact other offset same.symm
  · exact h offset earlier

theorem Sound.build (h : store.Sound) (site : Site) : (store.build site).Sound := by
  rw [Store.build_eq]
  split
  · exact h
  · have same := store.construct_records site
    exact Sound.note (fun offset noted => h offset (same ▸ noted)) nofun

theorem Sound.buildRecursive (h : store.Sound) (site : Site) :
    (store.buildRecursive site).Sound := by
  unfold Store.buildRecursive
  split
  · exact h
  · refine Sound.build ?_ site
    cases site.label <;> exact h

end Store

variable [Element ε]

theorem Frame.resume_held {frame : Frame ρ ε} (h : frame.Held library needs)
    (outcome : Outcome ρ Value) (store : Store) :
    (frame.resume outcome store).1.Held library needs := by
  rw [Frame.held_eq] at h
  unfold Run.Held
  rw [Frame.held_eq]
  refine Frame.resume_all h (fun _ later => later) ?_ ?_ outcome
  · intro bounds operand separator ho hs
    exact .many (.sequence hs ho)
  · intro next value choosing
    subst choosing
    exact h value _

variable [DecidableEq ε]

/-- Where definitions are held, no step of a parse follows a reference that leads nowhere. -/
theorem parsing_keeps_held (hl : library.Held needs) :
    (parsing library).Keeps
      (fun start : Start ρ ε => start.parser.Held library needs Parser.nowhere)
      (Frame.Held library needs) (fun _ => True) Store.Sound where
  call := by
    rintro ⟨parser, input⟩ store hp sound
    cases hp with
    | primitive p => exact ⟨.done trivial, sound⟩
    | sequence h₁ h₂ => exact ⟨.flatMap (.more h₁) h₂, sound⟩
    | choice h₁ h₂ => exact ⟨.flatMap (.more h₁) h₂, sound⟩
    | many h => exact ⟨Run.round_all h h fun _ => trivial, sound⟩
    | chain ho hs =>
      simp only [parsing, Start.call]
      split
      · exact ⟨.done trivial, sound⟩
      · exact ⟨.flatMap (.more ho) ⟨ho, hs⟩, sound⟩
    | adjust h => exact ⟨.flatMap (.more h) trivial, sound⟩
    | flatMap h hn => exact ⟨.flatMap (.more h) hn, sound⟩
    | select h hb => exact ⟨.flatMap (.more h) hb, sound⟩
    | tap h => exact ⟨.flatMap (.more h) trivial, sound⟩
    | deferred h => exact ⟨.more h, sound.build _⟩
    | fixpoint h => exact ⟨.more h.unfold, sound.buildRecursive _⟩
    | @copied _ site name scope known sealing hs =>
      obtain ⟨body, found⟩ := Option.isSome_iff_exists.mp known
      have copy : ((body.substitute scope).place site.kept (0 :: site.path)).Held library needs
          Parser.nowhere := by
        rw [Parser.place_substitute sealing]
        exact (hl name body site.kept _ found).substitute sealing hs
      simp only [parsing, Start.call, found]
      exact ⟨.more copy, sound.build _⟩
    | reference bound => exact bound.elim
    | handle kept h =>
      simp only [parsing, Start.call, kept, if_true]
      exact ⟨.more (.fixpoint h), sound⟩
    | shared h => exact ⟨.more h, sound⟩
  resume := by
    intro frame outcome store hf _ sound
    refine ⟨Frame.resume_held hf outcome store, fun offset noted => sound offset ?_⟩
    rw [← frame.resume_records outcome]
    exact noted

theorem Store.Sound.run {store last : Store} {fuel : Nat} {parser : Parser ε} {input : ρ}
    {outcome : Outcome ρ Value} (sound : store.Sound) (hl : library.Held needs)
    (hp : parser.Held library needs Parser.nowhere)
    (h : store.run library fuel parser input = some (outcome, last)) : last.Sound := by
  obtain ⟨final, hfinal, he⟩ := Option.map_eq_some_iff.mp h
  obtain ⟨-, rfl⟩ := Prod.mk.inj he
  exact ((parsing_keeps_held hl).run (.more hp) sound hfinal).2

theorem Store.Sound.runAll {store last : Store} {fuel : Nat} {parser : Parser ε} {input : ρ}
    {outcome : Outcome ρ Value} (sound : store.Sound) (hl : library.Held needs)
    (hp : parser.Held library needs Parser.nowhere)
    (h : store.runAll library fuel parser input = some (outcome, last)) : last.Sound := by
  obtain ⟨⟨ended, state⟩, ran, he⟩ := Option.map_eq_some_iff.mp h
  have before : state.Sound := sound.run hl hp ran
  dsimp only at he
  split at he
  · obtain ⟨-, rfl⟩ := Prod.mk.inj he
    exact before
  · obtain ⟨-, rfl⟩ := Prod.mk.inj he
    exact before.note nofun

/-- Where definitions are held, no parse finds that a reference leads nowhere. -/
theorem Store.parse_sound {store store' : Store} {fuel : Nat} {extent : Extent}
    {parser : Parser ε} {input : ρ} {report : Report ρ} (hl : library.Held needs)
    (hp : parser.Held library needs Parser.nowhere)
    (h : store.parse library fuel extent parser input = some (report, store')) (offset : Nat) :
    .danglingReference offset ∉ report.records := by
  obtain ⟨⟨outcome, last⟩, ran, he⟩ := Option.map_eq_some_iff.mp h
  obtain ⟨rfl, -⟩ := Prod.mk.inj he
  have sound : last.Sound := by
    cases extent with
    | part => exact store.sound_silence.run hl hp ran
    | whole => exact store.sound_silence.runAll hl hp ran
  rw [List.mem_reverse]
  exact sound offset

/-- A definition that a function makes is gone while its own body runs. -/
example :
    ((Parser.flatMap (.succeed .unit) fun _ => .recursive "r" (.choice (.character 'x')
        (.keepRight (.character '(') (.reference (.binder "r"))))).parse 40
      (TextReader.ofString "(x")).bind Outcome.message? =
        some "recursive parser is no longer alive" := by
  rfl

/-- A function that makes two uses of one definition, one after the other: the second use holds the
definition while the first runs, and nothing holds it after that. -/
def Parser.madePair : Parser Char :=
  let nest : Parser Char := .recursive "r" (.choice (.character 'x')
    (.keepRight (.character '(') (.reference (.binder "r"))))
  .flatMap (.succeed .unit) fun _ =>
    .seq (.shared (nest.place true [0, 1])) (.shared (nest.place false [0, 1]))

example : (Parser.madePair.parse 60 (TextReader.ofString "(xx")).bind Outcome.value? =
    some (.tuple [.char 'x', .char 'x']) := by
  rfl

example : (Parser.madePair.parse 60 (TextReader.ofString "x(x")).bind Outcome.message? =
    some "recursive parser is no longer alive" := by
  rfl

end SafeDescent
