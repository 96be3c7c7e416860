import SafeDescent.Proofs.Parser.Equivalence
import SafeDescent.Proofs.Parser.RewordedOutcomes
import SafeDescent.Proofs.Trampoline.Detour

namespace SafeDescent

variable {ρ ε : Type}

variable [Reader ρ ε] [Element ε]

/-- An adjustment of messages changes nothing else. -/
theorem Adjustment.reworded_apply {adjustment : Adjustment} (h : adjustment.rewords = true)
    (start : ρ) (outcome : Outcome ρ Value) : outcome.Reworded (adjustment.apply start outcome) := by
  cases adjustment with
  | failureMessage | errorMessage => cases outcome <;> constructor
  | _ => cases h

variable [DecidableEq ε]

theorem Primitive.run_reworded {p p' : Primitive ε} (h : p.Reworded p') (r : ρ) :
    (p.run r).Reworded (p'.run r) := by
  cases h with
  | same => exact Outcome.reworded_equivalence.refl _
  | fail message message' => exact .failure message message' r
  | fatal message message' => exact .error message message' r
  | satisfy accepts expected expected' =>
    simp only [Primitive.run]
    cases Reader.read r with
    | none => exact .failure ..
    | some found =>
      by_cases accepted : accepts found.1 = true
      · simp only [accepted, if_true]
        exact .success ..
      · simp only [accepted]
        exact .failure ..

theorem Start.relays_reworded (library : Library ε) {adjustment : Adjustment}
    (h : adjustment.rewords = true) (body : Parser ε) (input : ρ) :
    (parsing library).Relays Outcome.Reworded ⟨.adjust adjustment body, input⟩ ⟨body, input⟩ :=
  ⟨.adjusting adjustment input, fun _ => rfl,
    fun outcome _ => ⟨_, rfl, adjustment.reworded_apply h input outcome⟩⟩

/-- Parsers that differ in messages do the same when they start, once adjustments of messages have
let others start in their place. -/
theorem Parser.Reworded.abreast {library library' : Library ε} (hl : library.Reworded library')
    {parser parser' : Parser ε} (h : parser.Reworded parser') (input : ρ) :
    (parsing library).Abreast (parsing library') Start.rewords Start.Reworded (Frame.Paired .reworded)
      Outcome.Reworded ⟨parser, input⟩ ⟨parser', input⟩ := by
  induction h with
  | primitive hp =>
    exact .meets rfl rfl ⟨rfl, .primitive hp⟩ fun _ _ => .done (Primitive.run_reworded hp input)
  | sequence h₁ h₂ =>
    exact .meets rfl rfl ⟨rfl, .sequence h₁ h₂⟩ fun _ _ =>
      Pairing.reworded.run_start h₁ rfl (.following h₂)
  | choice h₁ h₂ =>
    exact .meets rfl rfl ⟨rfl, .choice h₁ h₂⟩ fun _ _ =>
      Pairing.reworded.run_start h₁ rfl (.otherwise h₂ rfl)
  | many h => exact .meets rfl rfl ⟨rfl, .many h⟩ fun _ _ => Pairing.reworded.run_round h _ #[] rfl
  | chain ho hs =>
    refine .meets rfl rfl ⟨rfl, .chain ho hs⟩ fun _ _ => ?_
    simp only [parsing, Start.call]
    split
    · exact .done (.success _ input)
    · exact Pairing.reworded.run_start ho rfl (.opening ho hs rfl)
  | @adjust adjustment body body' h ih =>
    -- The same adjustment on both sides: if it is one of messages, neither side counts it.
    cases rewords : adjustment.rewords with
    | true =>
      exact .first rewords (Start.relays_reworded library rewords body input)
        (.second rewords (Start.relays_reworded library' rewords body' input) ih)
    | false =>
      exact .meets rewords rewords ⟨rfl, .adjust h⟩ fun _ _ =>
        Pairing.reworded.run_start h rfl (.adjusting trivial rfl)
  | flatMap h hn =>
    exact .meets rfl rfl ⟨rfl, .flatMap h hn⟩ fun _ _ =>
      Pairing.reworded.run_start h rfl (.choosing fun v => (hn v).place false)
  | select h hb =>
    exact .meets rfl rfl ⟨rfl, .select h hb⟩ fun _ _ =>
      Pairing.reworded.run_start h rfl (.selecting hb)
  | tap h =>
    exact .meets rfl rfl ⟨rfl, .tap h⟩ fun _ _ => Pairing.reworded.run_start h rfl (.leaving _)
  | deferred h => exact .meets rfl rfl ⟨rfl, .deferred h⟩ fun _ _ => .more ⟨rfl, h⟩
  | fixpoint hk h =>
    exact .meets rfl rfl ⟨rfl, .fixpoint hk h⟩ fun _ _ => .more ⟨rfl, h.unfold hk⟩
  | @copied site site' name scope scope' hk hs =>
    refine .meets rfl rfl ⟨rfl, .copied hk hs⟩ fun _ _ => ?_
    have defined := hl name
    simp only [parsing, Start.call, hk]
    generalize library name = found, library' name = found' at defined ⊢
    cases defined with
    | none => exact .done (.error _ _ input)
    | some h => exact .more ⟨rfl, (h.substitute hs).place ..⟩
  | reference target =>
    exact .meets rfl rfl ⟨rfl, .reference target⟩ fun _ _ => .done (.error _ _ input)
  | handle hk h =>
    refine .meets rfl rfl ⟨rfl, .handle hk h⟩ fun _ _ => ?_
    simp only [parsing, Start.call, hk]
    split
    · exact .more ⟨rfl, .fixpoint hk h⟩
    · exact .done (.error _ _ input)
  | shared h => exact .meets rfl rfl ⟨rfl, .shared h⟩ fun _ _ => .more ⟨rfl, h⟩
  | first rewords _ ih =>
    exact .first rewords (Start.relays_reworded library rewords _ input) ih
  | second rewords _ ih =>
    exact .second rewords (Start.relays_reworded library' rewords _ input) ih

/-- Two parses go side by side if their parsers differ at most in messages. -/
theorem parsing_accompanies {library library' : Library ε} (hl : library.Reworded library') :
    (parsing library).Accompanies (parsing library') (Start.rewords (ρ := ρ)) Start.Reworded
      (Frame.Paired .reworded) Outcome.Reworded where
  equivalence := Outcome.reworded_equivalence
  call := by
    intro start start' hs
    obtain ⟨parser, input⟩ := start
    obtain ⟨parser', input'⟩ := start'
    obtain ⟨same, h⟩ := hs
    obtain rfl : input = input' := same
    exact h.abreast hl input
  resume := by
    intro frame frame' outcome outcome' hf ho store store'
    exact Pairing.reworded.resume hf ho store store'

/-- A run with the one parser goes as a run with the other one. -/
theorem Parser.Reworded.runs {library library' : Library ε} (hl : library.Reworded library')
    {parser parser' : Parser ε} (h : parser.Reworded parser') {input : ρ} {store last : Store}
    {starts : List (Start ρ ε)} {outcome : Outcome ρ Value}
    (run : parser.Runs library input store starts outcome last) (store' : Store) :
    ∃ starts' outcome' last', parser'.Runs library' input store' starts' outcome' last' ∧
      outcome.Reworded outcome' ∧
      List.Forall₂ Start.Reworded (starts.filter (!·.rewords)) (starts'.filter (!·.rewords)) := by
  have start : Start.Reworded (ρ := ρ) ⟨parser, input⟩ ⟨parser', input⟩ := ⟨rfl, h⟩
  have accompanies := parsing_accompanies (ρ := ρ) hl
  obtain ⟨starts', outcome', last', evaluates, same, calls⟩ := accompanies.ensues
    (.bare (.more (accompanies.call start))) (Parser.runs_iff_evaluates.mp run) store'
  exact ⟨starts', outcome', last', Parser.runs_iff_evaluates.mpr evaluates, same, calls⟩

theorem Parser.Reworded.answers {library library' : Library ε} (hl : library.Reworded library')
    {parser parser' : Parser ε} (h : parser.Reworded parser') {input : ρ} {store : Store}
    {extent : Extent} {outcome : Outcome ρ Value}
    (answers : store.Answers library extent parser input outcome) (store' : Store) :
    ∃ outcome', store'.Answers library' extent parser' input outcome' ∧
      outcome.Reworded outcome' := by
  obtain ⟨starts, ended, last, runs, rfl⟩ := Store.answers_iff_runs.mp answers
  obtain ⟨starts', ended', last', runs', same, -⟩ := h.runs hl runs store'.silence
  exact ⟨_, Store.answers_iff_runs.mpr ⟨starts', ended', last', runs', rfl⟩, same.finish extent⟩

end SafeDescent
