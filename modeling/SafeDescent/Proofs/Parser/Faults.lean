import SafeDescent.Proofs.Parser.BlamedMismatches
import SafeDescent.Proofs.Parser.Liveness
import SafeDescent.Proofs.Parser.Runs

namespace SafeDescent

variable {ρ ε : Type} [Reader ρ ε] [Element ε] [DecidableEq ε]

/-- What a start does by itself has a cause, if it is of a given kind. -/
structure Start.Faulty (primitives : Primitive ε → Prop) (adjustments : Adjustment → Prop)
    (failing erring : String → ρ → Prop) (start : Start ρ ε) : Prop where
  primitive (p : Primitive ε) : start.parser = .primitive p → primitives p →
    (p.run start.input).Faulty failing erring
  adjust (adjustment : Adjustment) (body : Parser ε) : start.parser = .adjust adjustment body →
    adjustments adjustment → adjustment.Faithful failing erring

variable {library : Library ε} {primitives : Primitive ε → Prop} {adjustments : Adjustment → Prop}
  {failing erring : String → ρ → Prop}

/-- Combinators make no failure and no error of their own: where no reference leads nowhere, each
one comes from a primitive parser or an adjustment. -/
theorem parsing_upholds_faulty (hl : library.MadeOf primitives adjustments) :
    (parsing library).Upholds (Start.Faulty primitives adjustments failing erring) Store.Sound
      (fun start => start.parser.MadeOf primitives adjustments)
      (Frame.Faulty primitives adjustments failing erring) (Outcome.Faulty failing erring) where
  call := by
    rintro ⟨parser, input⟩ store called hp sound
    change parser.MadeOf primitives adjustments at hp
    have dangles : ¬ (store.dangle (ε := ε) input).2.Sound :=
      fun fine => fine (Reader.offset input) List.mem_cons_self
    cases parser with
    | primitive p => exact .done (called.primitive p rfl hp)
    | sequence combine first second => exact .flatMap (.more hp.1) hp.2
    | choice first second => exact .flatMap (.more hp.1) hp.2
    | many bounds body =>
      have hb : body.MadeOf primitives adjustments := hp
      exact Run.round_all hb hb fun _ => trivial
    | chain join bounds operand separator =>
      simp only [parsing, Start.call]
      split
      · exact .done trivial
      · exact .flatMap (.more hp.1) hp
    | adjust adjustment body =>
      exact .flatMap (.more hp.2) (called.adjust adjustment body rfl hp.1)
    | flatMap body next => exact .flatMap (.more hp.1) hp.2
    | select body index branches => exact .flatMap (.more hp.1) hp.2
    | tap id body => exact .flatMap (.more hp) trivial
    | deferred site body => exact .more hp
    | fixpoint site name body =>
      have hb : body.MadeOf primitives adjustments := hp
      exact .more (hb.unfold site name)
    | copied site name scope =>
      simp only [parsing, Start.call] at sound ⊢
      cases found : library name with
      | none =>
        rw [found] at sound
        exact (dangles sound).elim
      | some body => exact .more (((hl name body found).substitute hp).place ..)
    | reference target => exact (dangles sound).elim
    | handle site name body =>
      simp only [parsing, Start.call] at sound ⊢
      split
      · exact .more hp
      next gone =>
        rw [if_neg gone] at sound
        exact (dangles sound).elim
    | shared body => exact .more hp
  resume := by
    intro frame outcome store hf ho
    cases frame with
    | following combine second =>
      cases outcome with
      | success value r => exact .flatMap (.more hf) trivial
      | failure message r => exact .done ho
      | error message r => exact .done ho
    | joining combine first => exact .done (ho.map _)
    | otherwise second start =>
      cases outcome with
      | success value r => exact .done ho
      | failure message r => exact .flatMap (.more hf) ho
      | error message r => exact .done ho
    | comparing message stopped => exact .done (ho.furthest hf)
    | repeating bounds body values start =>
      exact afterRound_all (R := fun _ => True) (fun _ _ => hf) (fun _ _ _ => hf)
        (fun _ _ _ => trivial) trivial trivial ho
    | opening join bounds operand separator start =>
      exact afterOperand_all (R := fun _ => True) (fun _ _ => ⟨hf.2, hf.1⟩) (fun _ => trivial)
        (fun _ _ _ => trivial) trivial trivial ho
    | folding join first => exact .done (ho.map _)
    | adjusting adjustment start => exact .done (hf start outcome ho)
    | choosing next =>
      cases outcome with
      | success value r => exact .more ((hf value).place ..)
      | failure message r => exact .done ho
      | error message r => exact .done ho
    | selecting index branches =>
      cases outcome with
      | success value r => exact .more (hf _)
      | failure message r => exact .done ho
      | error message r => exact .done ho
    | leaving id => exact .done ho
  spoilt := by
    refine ⟨?_, ?_⟩
    · intro calls start store unsound sound
      refine unsound fun offset noted => sound offset ?_
      exact (parsing_tracks_record library _).call calls start noted
    · intro calls frame outcome store unsound sound
      refine unsound fun offset noted => sound offset ?_
      exact (parsing_tracks_record library _).resume calls frame outcome noted

theorem Parser.Runs.faulty {parser : Parser ε} {input : ρ} {store last : Store}
    {starts : List (Start ρ ε)} {outcome : Outcome ρ Value}
    (hl : library.MadeOf primitives adjustments) (hp : parser.MadeOf primitives adjustments)
    (hstarts : ∀ start ∈ starts, start.Faulty primitives adjustments failing erring) (sound : last.Sound)
    (h : parser.Runs library input store starts outcome last) : outcome.Faulty failing erring :=
  (parsing_upholds_faulty hl).evaluates (.more hp) hstarts sound
    (Parser.runs_iff_evaluates.mp h)

omit [DecidableEq ε] in
theorem Extent.sound_of_close {extent : Extent} {ended : Outcome ρ Value} {store : Store}
    (h : (extent.close ended store).Sound) : store.Sound := by
  intro offset noted
  unfold Extent.close at h
  split at h
  · exact h offset (List.mem_cons_of_mem _ noted)
  · exact h offset noted

/-- No reference of a parse leads nowhere: the parse records none, or each definition is held where
it is used. -/
def Parser.Connected (library : Library ε) (parser : Parser ε) (report : Report ρ) : Prop :=
  (∀ offset, .danglingReference offset ∉ report.records) ∨
    ∃ needs, library.Held needs ∧ parser.Held library needs Parser.nowhere

/-- What a parse reports comes from a run in which no reference led nowhere. -/
theorem Parser.Connected.runs {store last : Store} {fuel : Nat} {extent : Extent}
    {parser : Parser ε} {input : ρ} {report : Report ρ}
    (connected : parser.Connected library report)
    (h : store.parse library fuel extent parser input = some (report, last)) :
    ∃ starts ended state, parser.Runs library input store.silence starts ended state ∧
      report.outcome = extent.finish ended ∧ state.Sound := by
  have none (offset : Nat) : .danglingReference offset ∉ report.records := by
    rcases connected with unrecorded | ⟨needs, hl, held⟩
    · exact unrecorded offset
    · exact Store.parse_sound hl held h offset
  obtain ⟨starts, ended, state, runs, finish, rfl, records⟩ := Store.parse_runs h
  have closed : (extent.close ended state).Sound := by
    intro offset noted
    rw [records] at none
    exact none offset (List.mem_reverse.mpr noted)
  exact ⟨starts, ended, state, runs, finish, Extent.sound_of_close closed⟩

end SafeDescent
