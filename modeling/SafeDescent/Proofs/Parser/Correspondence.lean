import SafeDescent.Proofs.Parser.PairedFrames
import SafeDescent.Proofs.Parser.RelatedOutcomes

namespace SafeDescent

variable {ρ ρ' ε : Type} [Reader ρ ε] [Reader ρ' ε] {R : ρ → ρ' → Prop}

/-- Like parsers, at corresponding positions. -/
def Pairing.alike {adjustments : Adjustment → Prop} (h : Reader.Corresponds R)
    (spans : SpansAgree adjustments R) : Pairing ρ ρ' ε where
  parsers := Parser.Alike adjustments
  starts := Start.Related adjustments R
  outcomes := Outcome.Related R
  positions := R
  messages := Eq
  adjustments := adjustments
  start := And.intro
  operations ho hs := .many (.sequence hs ho)
  outcomes_iff := Outcome.related_iff_paired
  corresponds := h
  same := Eq.refl
  spans := spans

variable [Element ε] [DecidableEq ε]

/-- Two parses with like parsers on corresponding positions go side by side, whatever the two
stores remember. -/
theorem parsing_simulates {adjustments : Adjustment → Prop} {library library' : Library ε}
    (hl : library.Alike adjustments library') (h : Reader.Corresponds R)
    (spans : SpansAgree adjustments R) :
    (parsing library).Simulates (parsing library') (Start.Related adjustments R)
      (Frame.Paired (.alike h spans)) (Outcome.Related R) (fun _ _ => True) where
  call := by
    rintro ⟨parser, input⟩ ⟨parser', input'⟩ store store' ⟨alike, hr⟩ -
    change R input input' at hr
    refine ⟨?_, trivial⟩
    cases alike with
    | primitive p => exact .done (p.run_related h hr)
    | sequence ha hb => exact .flatMap (.more ⟨ha, hr⟩) (.following hb)
    | choice ha hb => exact .flatMap (.more ⟨ha, hr⟩) (.otherwise hb hr)
    | many ha => exact (Pairing.alike h spans).run_round ha _ #[] hr
    | chain ha hb =>
      simp only [parsing, Start.call]
      split
      · exact .done (.success _ hr)
      · exact .flatMap (.more ⟨ha, hr⟩) (.opening ha hb hr)
    | adjust hj ha => exact .flatMap (.more ⟨ha, hr⟩) (.adjusting hj hr)
    | flatMap ha hn => exact .flatMap (.more ⟨ha, hr⟩) (.choosing fun v => (hn v).place false)
    | select ha hb => exact .flatMap (.more ⟨ha, hr⟩) (.selecting hb)
    | tap ha => exact .flatMap (.more ⟨ha, hr⟩) (.leaving _)
    | deferred ha => exact .more ⟨ha, hr⟩
    | fixpoint hk ha => exact .more ⟨ha.unfold hk, hr⟩
    | @copied site site' name scope scope' hk hs =>
      have defined := hl name
      simp only [parsing, Start.call, hk]
      generalize library name = found, library' name = found' at defined ⊢
      cases defined with
      | none => exact .done (.error _ hr)
      | some alike => exact .more ⟨(alike.substitute hs).place .., hr⟩
    | reference target => exact .done (.error _ hr)
    | handle hk ha =>
      simp only [parsing, Start.call, hk]
      split
      · exact .more ⟨.fixpoint hk ha, hr⟩
      · exact .done (.error _ hr)
    | shared ha => exact .more ⟨ha, hr⟩
  resume := by
    intro frame frame' outcome outcome' store store' hf ho _
    exact ⟨(Pairing.alike h spans).resume hf ho store store', trivial⟩

theorem Store.run_related {adjustments : Adjustment → Prop} {library library' : Library ε}
    (hl : library.Alike adjustments library') (h : Reader.Corresponds R)
    (spans : SpansAgree adjustments R) {parser parser' : Parser ε}
    (hp : Parser.Alike adjustments parser parser') {input : ρ} {input' : ρ'} (hr : R input input')
    (fuel : Nat) (store store' : Store) :
    Option.Rel (fun ended ended' => Outcome.Related R ended.1 ended'.1)
      (store.run library fuel parser input) (store'.run library' fuel parser' input') := by
  have start : Start.Related adjustments R ⟨parser, input⟩ ⟨parser', input'⟩ := ⟨hp, hr⟩
  have sides := (parsing_simulates hl h spans).run fuel (.more start) store store' trivial
  exact optionRel_map.mpr (optionRel_mono (fun _ _ same => same.value) sides)

theorem Store.parse_related {adjustments : Adjustment → Prop} {library library' : Library ε}
    (hl : library.Alike adjustments library') (h : Reader.Corresponds R)
    (spans : SpansAgree adjustments R) {parser parser' : Parser ε}
    (hp : Parser.Alike adjustments parser parser') {input : ρ} {input' : ρ'} (hr : R input input')
    (fuel : Nat) (extent : Extent) (store store' : Store) :
    Option.Rel (fun parsed parsed' => Outcome.Related R parsed.1.outcome parsed'.1.outcome)
      (store.parse library fuel extent parser input)
      (store'.parse library' fuel extent parser' input') := by
  have finished := optionRel_mono (Q := fun ended ended' =>
      Outcome.Related R (extent.finish ended.1) (extent.finish ended'.1))
    (fun _ _ same => same.finish h extent)
    (Store.run_related hl h spans hp hr fuel store.silence store'.silence)
  rw [← optionRel_map (f := fun parsed : Report ρ × Store => parsed.1.outcome),
    Store.map_outcome_parse, Store.map_outcome_parse]
  exact optionRel_map.mpr finished

omit [Element ε] [DecidableEq ε] in
theorem Library.alike_self (library : Library ε) : library.Alike (fun _ => True) library := by
  intro name
  cases library name with
  | none => exact .none
  | some body => exact .some body.madeOf_anything.alike

end SafeDescent
