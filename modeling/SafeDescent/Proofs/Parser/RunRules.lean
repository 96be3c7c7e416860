import SafeDescent.Proofs.Parser.Runs

namespace SafeDescent

variable {ρ ε : Type} [Reader ρ ε] [Element ε] [DecidableEq ε]

variable {library : Library ε} {parser : Parser ε} {input : ρ} {store last : Store}
  {starts : List (Start ρ ε)} {outcome : Outcome ρ Value}

/-- A parser that ends at once starts nothing else. -/
theorem Parser.runs_iff_done {ended : Outcome ρ Value}
    (opens : (parsing library).call ⟨parser, input⟩ store = (.done ended, store)) :
    parser.Runs library input store starts outcome last ↔
      outcome = ended ∧ last = store ∧ starts = [⟨parser, input⟩] := by
  rw [runs_iff_evaluates, Engine.evaluates_more_iff, opens]
  simp only [Engine.evaluates_done_iff]
  constructor
  · intro h
    obtain ⟨_, rfl, rfl, rfl, rfl⟩ := h
    exact ⟨rfl, rfl, rfl⟩
  · intro h
    obtain ⟨rfl, rfl, rfl⟩ := h
    exact ⟨[], rfl, rfl, rfl, rfl⟩

theorem Parser.runs_primitive_iff {p : Primitive ε} :
    (Parser.primitive p).Runs library input store starts outcome last ↔
      outcome = p.run input ∧ last = store ∧ starts = [⟨.primitive p, input⟩] :=
  runs_iff_done rfl

/-- A parser that starts another one runs that first. Then it goes on as its frame does with the
outcome. -/
theorem Parser.runs_iff_framed {first : Parser ε} {frame : Frame ρ ε}
    (opens : (parsing library).call ⟨parser, input⟩ store = (Run.start first input frame, store)) :
    parser.Runs library input store starts outcome last ↔
      ∃ tried head middle rest, first.Runs library input store tried head middle ∧
        (parsing library).Evaluates (frame.resume head middle).1 (frame.resume head middle).2 rest
          outcome last ∧
        starts = ⟨parser, input⟩ :: (tried ++ rest) := by
  simp only [runs_iff_evaluates]
  rw [Engine.evaluates_more_iff, opens]
  constructor
  · intro h
    obtain ⟨_, rfl, h⟩ := h
    obtain ⟨tried, rest, head, middle, rfl, hfirst, hrest⟩ := Engine.evaluates_flatMap_iff.mp h
    exact ⟨tried, head, middle, rest, hfirst, hrest, rfl⟩
  · intro h
    obtain ⟨tried, head, middle, rest, hfirst, hrest, rfl⟩ := h
    exact ⟨_, rfl, Engine.evaluates_flatMap_iff.mpr
      ⟨tried, rest, head, middle, rfl, hfirst, hrest⟩⟩

/-- A parser runs under a frame that ends with what it makes of the outcome. -/
theorem Parser.evaluates_start_iff {frame : Frame ρ ε} {f : Outcome ρ Value → Outcome ρ Value}
    (ends : ∀ ended state, frame.resume ended state = (.done (f ended), state)) :
    (parsing library).Evaluates (Run.start parser input frame) store starts outcome last ↔
      ∃ ended, parser.Runs library input store starts ended last ∧ outcome = f ended := by
  simp only [runs_iff_evaluates]
  constructor
  · intro h
    obtain ⟨tried, rest, ended, middle, rfl, hparser, hrest⟩ := Engine.evaluates_flatMap_iff.mp h
    change (parsing library).Evaluates (frame.resume ended middle).1 (frame.resume ended middle).2 rest
      outcome last at hrest
    rw [ends] at hrest
    obtain ⟨rfl, rfl, rfl⟩ := Engine.evaluates_done_iff.mp hrest
    exact ⟨ended, by simpa using hparser, rfl⟩
  · intro h
    obtain ⟨ended, hparser, rfl⟩ := h
    refine Engine.evaluates_flatMap_iff.mpr ⟨starts, [], ended, last, by simp, hparser, ?_⟩
    change (parsing library).Evaluates (frame.resume ended last).1 (frame.resume ended last).2 []
      (f ended) last
    rw [ends]
    exact .done _ _

/-- A sequence runs its first parser, and after a success the second one from where that stopped. -/
theorem Parser.runs_sequence_iff {combine : Value → Value → Value} {first second : Parser ε} :
    (Parser.sequence combine first second).Runs library input store starts outcome last ↔
      ∃ tried head middle, first.Runs library input store tried head middle ∧
        ((head.isSuccess = false ∧ outcome = head ∧ last = middle ∧
            starts = ⟨.sequence combine first second, input⟩ :: tried) ∨
          ∃ value r more other, head = .success value r ∧
            second.Runs library r middle more other last ∧ outcome = other.map (combine value) ∧
            starts = ⟨.sequence combine first second, input⟩ :: (tried ++ more)) := by
  rw [runs_iff_framed rfl]
  constructor
  · intro h
    obtain ⟨tried, head, middle, rest, hfirst, hrest, rfl⟩ := h
    refine ⟨tried, head, middle, hfirst, ?_⟩
    cases head with
    | success value r =>
      obtain ⟨other, hsecond, rfl⟩ := (evaluates_start_iff fun _ _ => rfl).mp hrest
      exact .inr ⟨value, r, rest, other, rfl, hsecond, rfl, rfl⟩
    | failure message r =>
      obtain ⟨rfl, rfl, rfl⟩ := Engine.evaluates_done_iff.mp hrest
      exact .inl ⟨rfl, rfl, rfl, by simp⟩
    | error message r =>
      obtain ⟨rfl, rfl, rfl⟩ := Engine.evaluates_done_iff.mp hrest
      exact .inl ⟨rfl, rfl, rfl, by simp⟩
  · intro h
    obtain ⟨tried, head, middle, hfirst, ⟨stopped, rfl, rfl, rfl⟩ |
      ⟨value, r, more, other, rfl, hsecond, rfl, rfl⟩⟩ := h
    · refine ⟨tried, outcome, last, [], hfirst, ?_, by simp⟩
      cases outcome with
      | success value r => cases stopped
      | failure message r => exact .done _ _
      | error message r => exact .done _ _
    · exact ⟨tried, _, middle, more, hfirst,
        (evaluates_start_iff fun _ _ => rfl).mpr ⟨other, hsecond, rfl⟩, rfl⟩

theorem Parser.Runs.sequence_of_stopped {first : Parser ε}
    (h : first.Runs library input store starts outcome last) (stopped : outcome.isSuccess = false)
    (combine : Value → Value → Value) (second : Parser ε) :
    (Parser.sequence combine first second).Runs library input store
      (⟨.sequence combine first second, input⟩ :: starts) outcome last :=
  runs_sequence_iff.mpr ⟨starts, outcome, last, h, .inl ⟨stopped, rfl, rfl, rfl⟩⟩

theorem Parser.Runs.sequence {first second : Parser ε} {value : Value} {r : ρ} {middle : Store}
    {more : List (Start ρ ε)} (h : first.Runs library input store starts (.success value r) middle)
    (h' : second.Runs library r middle more outcome last) (combine : Value → Value → Value) :
    (Parser.sequence combine first second).Runs library input store
      (⟨.sequence combine first second, input⟩ :: (starts ++ more)) (outcome.map (combine value)) last :=
  runs_sequence_iff.mpr ⟨starts, _, middle, h, .inr ⟨value, r, more, outcome, rfl, h', rfl, rfl⟩⟩

/-- An adjustment runs its parser and changes how that ended. -/
theorem Parser.runs_adjust_iff {adjustment : Adjustment} {body : Parser ε} :
    (Parser.adjust adjustment body).Runs library input store starts outcome last ↔
      ∃ tried ended, body.Runs library input store tried ended last ∧
        outcome = adjustment.apply input ended ∧
        starts = ⟨.adjust adjustment body, input⟩ :: tried := by
  rw [runs_iff_framed rfl]
  constructor
  · intro h
    obtain ⟨tried, ended, middle, none, hbody, hdone, rfl⟩ := h
    obtain ⟨rfl, rfl, rfl⟩ := Engine.evaluates_done_iff.mp hdone
    exact ⟨tried, ended, hbody, rfl, by simp⟩
  · intro h
    obtain ⟨tried, ended, hbody, rfl, rfl⟩ := h
    exact ⟨tried, ended, last, [], hbody, .done _ _, by simp⟩

/-- A parser that is made from a value gets a number, and runs where the one before it stopped. -/
theorem Parser.runs_flatMap_iff {body : Parser ε} {next : Value → Parser ε} :
    (Parser.flatMap body next).Runs library input store starts outcome last ↔
      ∃ tried head middle, body.Runs library input store tried head middle ∧
        ((head.isSuccess = false ∧ outcome = head ∧ last = middle ∧
            starts = ⟨.flatMap body next, input⟩ :: tried) ∨
          ∃ value r more, head = .success value r ∧
            ((next value).place false [middle.roots]).Runs library r middle.fresh.2 more outcome last ∧
            starts = ⟨.flatMap body next, input⟩ :: (tried ++ more)) := by
  rw [runs_iff_framed rfl]
  constructor
  · intro h
    obtain ⟨tried, head, middle, rest, hbody, hrest, rfl⟩ := h
    refine ⟨tried, head, middle, hbody, ?_⟩
    cases head with
    | success value r =>
      exact .inr ⟨value, r, rest, rfl, runs_iff_evaluates.mpr hrest, rfl⟩
    | failure message r =>
      obtain ⟨rfl, rfl, rfl⟩ := Engine.evaluates_done_iff.mp hrest
      exact .inl ⟨rfl, rfl, rfl, by simp⟩
    | error message r =>
      obtain ⟨rfl, rfl, rfl⟩ := Engine.evaluates_done_iff.mp hrest
      exact .inl ⟨rfl, rfl, rfl, by simp⟩
  · intro h
    obtain ⟨tried, head, middle, hbody, ⟨stopped, rfl, rfl, rfl⟩ |
      ⟨value, r, more, rfl, hnext, rfl⟩⟩ := h
    · refine ⟨tried, outcome, last, [], hbody, ?_, by simp⟩
      cases outcome with
      | success value r => cases stopped
      | failure message r => exact .done _ _
      | error message r => exact .done _ _
    · exact ⟨tried, _, middle, more, hbody, runs_iff_evaluates.mp hnext, rfl⟩

theorem Parser.Runs.flatMap_of_stopped {body : Parser ε}
    (h : body.Runs library input store starts outcome last) (stopped : outcome.isSuccess = false)
    (next : Value → Parser ε) :
    (Parser.flatMap body next).Runs library input store (⟨.flatMap body next, input⟩ :: starts) outcome
      last :=
  runs_flatMap_iff.mpr ⟨starts, outcome, last, h, .inl ⟨stopped, rfl, rfl, rfl⟩⟩

theorem Parser.Runs.flatMap {body : Parser ε} {next : Value → Parser ε} {value : Value} {r : ρ}
    {middle : Store} {more : List (Start ρ ε)}
    (h : body.Runs library input store starts (.success value r) middle)
    (h' : ((next value).place false [middle.roots]).Runs library r middle.fresh.2 more outcome last) :
    (Parser.flatMap body next).Runs library input store
      (⟨.flatMap body next, input⟩ :: (starts ++ more)) outcome last :=
  runs_flatMap_iff.mpr ⟨starts, _, middle, h, .inr ⟨value, r, more, rfl, h', rfl⟩⟩

/-- A parser that lets another one start in its place runs that one. -/
theorem Parser.runs_iff_forwarded {other : Parser ε} {middle : Store}
    (opens : (parsing library).call ⟨parser, input⟩ store = (.more ⟨other, input⟩, middle)) :
    parser.Runs library input store starts outcome last ↔
      ∃ rest, starts = ⟨parser, input⟩ :: rest ∧
        other.Runs library input middle rest outcome last := by
  simp only [runs_iff_evaluates]
  rw [Engine.evaluates_more_iff, opens]

/-- A recursive definition is built and runs its body, with its handle in the place of its name. -/
theorem Parser.runs_fixpoint_iff {site : Site} {name : String} {body : Parser ε} :
    (Parser.fixpoint site name body).Runs library input store starts outcome last ↔
      ∃ rest, starts = ⟨.fixpoint site name body, input⟩ :: rest ∧
        (Parser.unfold site name body).Runs library input (store.buildRecursive site) rest outcome
          last :=
  runs_iff_forwarded rfl

/-- The handle of a definition that is kept runs the definition. -/
theorem Parser.runs_handle_iff {site : Site} {name : String} {body : Parser ε}
    (kept : site.kept = true) :
    (Parser.handle site name body).Runs library input store starts outcome last ↔
      ∃ rest, starts = ⟨.handle site name body, input⟩ :: rest ∧
        (Parser.fixpoint site name body).Runs library input store rest outcome last := by
  refine runs_iff_forwarded ?_
  simp [parsing, Start.call, kept]

theorem Parser.runs_shared_iff {body : Parser ε} :
    (Parser.shared body).Runs library input store starts outcome last ↔
      ∃ rest, starts = ⟨.shared body, input⟩ :: rest ∧
        body.Runs library input store rest outcome last :=
  runs_iff_forwarded rfl

/-- A choice runs its first parser, and after a failure the second one from the same position. -/
theorem Parser.runs_choice_iff {first second : Parser ε} :
    (Parser.choice first second).Runs library input store starts outcome last ↔
      ∃ tried head middle, first.Runs library input store tried head middle ∧
        (((∀ message stopped, head ≠ .failure message stopped) ∧ outcome = head ∧ last = middle ∧
            starts = ⟨.choice first second, input⟩ :: tried) ∨
          ∃ message stopped more other, head = .failure message stopped ∧
            second.Runs library input middle more other last ∧
            outcome = other.furthest message stopped ∧
            starts = ⟨.choice first second, input⟩ :: (tried ++ more)) := by
  rw [runs_iff_framed rfl]
  constructor
  · intro h
    obtain ⟨tried, head, middle, rest, hfirst, hrest, rfl⟩ := h
    refine ⟨tried, head, middle, hfirst, ?_⟩
    cases head with
    | failure message stopped =>
      obtain ⟨other, hsecond, rfl⟩ := (evaluates_start_iff fun _ _ => rfl).mp hrest
      exact .inr ⟨message, stopped, rest, other, rfl, hsecond, rfl, rfl⟩
    | success value r =>
      obtain ⟨rfl, rfl, rfl⟩ := Engine.evaluates_done_iff.mp hrest
      exact .inl ⟨by simp, rfl, rfl, by simp⟩
    | error message r =>
      obtain ⟨rfl, rfl, rfl⟩ := Engine.evaluates_done_iff.mp hrest
      exact .inl ⟨by simp, rfl, rfl, by simp⟩
  · intro h
    obtain ⟨tried, head, middle, hfirst, ⟨settled, rfl, rfl, rfl⟩ |
      ⟨message, stopped, more, other, rfl, hsecond, rfl, rfl⟩⟩ := h
    · refine ⟨tried, outcome, last, [], hfirst, ?_, by simp⟩
      cases outcome with
      | failure message stopped => exact absurd rfl (settled message stopped)
      | success value r => exact .done _ _
      | error message r => exact .done _ _
    · exact ⟨tried, _, middle, more, hfirst,
        (evaluates_start_iff fun _ _ => rfl).mpr ⟨other, hsecond, rfl⟩, rfl⟩

end SafeDescent
