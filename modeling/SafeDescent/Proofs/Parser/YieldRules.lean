import SafeDescent.Proofs.Parser.RunRules
import SafeDescent.Proofs.Parser.Yields

namespace SafeDescent

variable {ρ ε : Type} [Reader ρ ε] [Element ε] [DecidableEq ε]

namespace Parser

variable {library : Library ε} {parser parser' first second body : Parser ε} {input : ρ}
  {outcome : Outcome ρ Value}

/-- Parsers agree where they yield the same. -/
theorem agree_of_yields (h : ∀ outcome : Outcome ρ Value,
    parser.Yields library input outcome ↔ parser'.Yields library input outcome) :
    parser.Agree library parser' input := by
  intro extent store store' outcome
  simp only [Store.answers_iff_yields, h]

theorem yields_primitive_iff {p : Primitive ε} :
    (Parser.primitive p).Yields library input outcome ↔ outcome = p.run input := by
  constructor
  · intro h
    obtain ⟨starts, last, runs⟩ := h
    exact (runs_primitive_iff.mp runs).1
  · intro he
    subst he
    exact ⟨_, _, runs_primitive_iff.mpr ⟨rfl, rfl, rfl⟩⟩

theorem yields_sequence_iff {combine : Value → Value → Value} :
    (Parser.sequence combine first second).Yields library input outcome ↔
      ∃ head, first.Yields library input head ∧ (head.isSuccess = false ∧ outcome = head ∨
        ∃ value r other, head = .success value r ∧ second.Yields library r other ∧
          outcome = other.map (combine value)) := by
  constructor
  · intro h
    obtain ⟨starts, last, runs⟩ := h
    obtain ⟨tried, head, middle, hfirst, ⟨stopped, rfl, -, -⟩ |
      ⟨value, r, more, other, rfl, hsecond, rfl, -⟩⟩ := runs_sequence_iff.mp runs
    · exact ⟨outcome, hfirst.yields, .inl ⟨stopped, rfl⟩⟩
    · exact ⟨_, hfirst.yields, .inr ⟨value, r, other, rfl, hsecond.yields, rfl⟩⟩
  · intro h
    obtain ⟨head, ⟨tried, middle, hfirst⟩, ⟨stopped, rfl⟩ | ⟨value, r, other, rfl, hsecond, rfl⟩⟩ := h
    · exact ⟨_, middle, hfirst.sequence_of_stopped stopped combine second⟩
    · obtain ⟨more, last, hsecond⟩ := hsecond.runs middle
      exact ⟨_, last, hfirst.sequence hsecond combine⟩

theorem yields_choice_iff :
    (Parser.choice first second).Yields library input outcome ↔
      ∃ head, first.Yields library input head ∧
        ((∀ message stopped, head ≠ .failure message stopped) ∧ outcome = head ∨
          ∃ message stopped other, head = .failure message stopped ∧
            second.Yields library input other ∧ outcome = other.furthest message stopped) := by
  constructor
  · intro h
    obtain ⟨starts, last, runs⟩ := h
    obtain ⟨tried, head, middle, hfirst, ⟨settled, rfl, -, -⟩ |
      ⟨message, stopped, more, other, rfl, hsecond, rfl, -⟩⟩ := runs_choice_iff.mp runs
    · exact ⟨outcome, hfirst.yields, .inl ⟨settled, rfl⟩⟩
    · exact ⟨_, hfirst.yields, .inr ⟨message, stopped, other, rfl, hsecond.yields, rfl⟩⟩
  · intro h
    obtain ⟨head, ⟨tried, middle, hfirst⟩, ⟨settled, rfl⟩ |
      ⟨message, stopped, other, rfl, hsecond, rfl⟩⟩ := h
    · exact ⟨_, middle, runs_choice_iff.mpr
        ⟨tried, outcome, middle, hfirst, .inl ⟨settled, rfl, rfl, rfl⟩⟩⟩
    · obtain ⟨more, last, hsecond⟩ := hsecond.runs middle
      exact ⟨_, last, runs_choice_iff.mpr
        ⟨tried, _, middle, hfirst, .inr ⟨message, stopped, more, other, rfl, hsecond, rfl, rfl⟩⟩⟩

theorem yields_adjust_iff {adjustment : Adjustment} :
    (Parser.adjust adjustment body).Yields library input outcome ↔
      ∃ ended, body.Yields library input ended ∧ outcome = adjustment.apply input ended := by
  constructor
  · intro h
    obtain ⟨starts, last, runs⟩ := h
    obtain ⟨tried, ended, run, he, -⟩ := runs_adjust_iff.mp runs
    exact ⟨ended, run.yields, he⟩
  · intro h
    obtain ⟨ended, ⟨tried, last, run⟩, he⟩ := h
    exact ⟨_, last, runs_adjust_iff.mpr ⟨tried, ended, run, he, rfl⟩⟩

theorem yields_adjust_of_yields {adjustment : Adjustment} {ended : Outcome ρ Value}
    (h : body.Yields library input ended) :
    (Parser.adjust adjustment body).Yields library input outcome ↔
      outcome = adjustment.apply input ended := by
  rw [yields_adjust_iff]
  constructor
  · rintro ⟨ended', yields, rfl⟩
    rw [yields.unique h]
  · rintro rfl
    exact ⟨ended, h, rfl⟩

/-- An adjustment that changes nothing the second time can be made twice. -/
theorem yields_adjust_adjust_iff {adjustment : Adjustment}
    (settled : ∀ ended : Outcome ρ Value,
      adjustment.apply input (adjustment.apply input ended) = adjustment.apply input ended) :
    (Parser.adjust adjustment (.adjust adjustment body)).Yields library input outcome ↔
      (Parser.adjust adjustment body).Yields library input outcome := by
  rw [yields_adjust_iff, yields_adjust_iff]
  simp only [yields_adjust_iff]
  constructor
  · rintro ⟨_, ⟨ended, yields, rfl⟩, rfl⟩
    exact ⟨ended, yields, settled ended⟩
  · rintro ⟨ended, yields, rfl⟩
    exact ⟨_, ⟨ended, yields, rfl⟩, (settled ended).symm⟩

theorem yields_sequence_of_success {combine : Value → Value → Value} {value : Value} {r : ρ}
    (h : first.Yields library input (.success value r)) :
    (Parser.sequence combine first second).Yields library input outcome ↔
      ∃ other, second.Yields library r other ∧ outcome = other.map (combine value) := by
  rw [yields_sequence_iff]
  constructor
  · intro sequence
    obtain ⟨head, hhead, ⟨stopped, -⟩ | ⟨value', r', other, rfl, hsecond, he⟩⟩ := sequence
    · rw [hhead.unique h] at stopped
      cases stopped
    · obtain ⟨rfl, rfl⟩ := Outcome.success.inj (h.unique hhead)
      exact ⟨other, hsecond, he⟩
  · intro sequence
    obtain ⟨other, hsecond, he⟩ := sequence
    exact ⟨_, h, .inr ⟨value, r, other, rfl, hsecond, he⟩⟩

theorem yields_sequence_of_stopped {combine : Value → Value → Value} {head : Outcome ρ Value}
    (h : first.Yields library input head) (stopped : head.isSuccess = false) :
    (Parser.sequence combine first second).Yields library input outcome ↔ outcome = head := by
  rw [yields_sequence_iff]
  constructor
  · intro sequence
    obtain ⟨head', hhead, ⟨-, rfl⟩ | ⟨value, r, other, rfl, -, -⟩⟩ := sequence
    · exact hhead.unique h
    · rw [h.unique hhead] at stopped
      cases stopped
  · intro he
    subst he
    exact ⟨_, h, .inl ⟨stopped, rfl⟩⟩

theorem yields_sequence_success_iff {combine : Value → Value → Value} {value : Value} {r : ρ} :
    (Parser.sequence combine first second).Yields library input (.success value r) ↔
      ∃ a middle b, first.Yields library input (.success a middle) ∧
        second.Yields library middle (.success b r) ∧ value = combine a b := by
  rw [yields_sequence_iff]
  constructor
  · rintro ⟨head, hfirst, ⟨stopped, rfl⟩ | ⟨a, middle, other, rfl, hsecond, joined⟩⟩
    · cases stopped
    · cases other with
      | success b r' =>
        obtain ⟨rfl, rfl⟩ := Outcome.success.inj joined
        exact ⟨a, middle, b, hfirst, hsecond, rfl⟩
      | failure message r' => cases joined
      | error message r' => cases joined
  · rintro ⟨a, middle, b, hfirst, hsecond, rfl⟩
    exact ⟨_, hfirst, .inr ⟨a, middle, _, rfl, hsecond, rfl⟩⟩

theorem yields_choice_of_failure {message : String} {stopped : ρ}
    (h : first.Yields library input (.failure message stopped)) :
    (Parser.choice first second).Yields library input outcome ↔
      ∃ other, second.Yields library input other ∧ outcome = other.furthest message stopped := by
  rw [yields_choice_iff]
  constructor
  · intro choice
    obtain ⟨head, hhead, ⟨settled, -⟩ | ⟨message', stopped', other, rfl, hsecond, he⟩⟩ := choice
    · exact absurd (hhead.unique h) (settled message stopped)
    · obtain ⟨rfl, rfl⟩ := Outcome.failure.inj (h.unique hhead)
      exact ⟨other, hsecond, he⟩
  · intro choice
    obtain ⟨other, hsecond, he⟩ := choice
    exact ⟨_, h, .inr ⟨message, stopped, other, rfl, hsecond, he⟩⟩

theorem yields_choice_of_settled {head : Outcome ρ Value} (h : first.Yields library input head)
    (settled : ∀ message stopped, head ≠ .failure message stopped) :
    (Parser.choice first second).Yields library input outcome ↔ outcome = head := by
  rw [yields_choice_iff]
  constructor
  · intro choice
    obtain ⟨head', hhead, ⟨-, rfl⟩ | ⟨message, stopped, other, rfl, -, -⟩⟩ := choice
    · exact hhead.unique h
    · exact absurd (h.unique hhead) (settled message stopped)
  · intro he
    subst he
    exact ⟨_, h, .inl ⟨settled, rfl⟩⟩

theorem yields_flatMap_iff {next : Value → Parser ε} (path : List Nat) :
    (Parser.flatMap body next).Yields library input outcome ↔
      ∃ head, body.Yields library input head ∧ (head.isSuccess = false ∧ outcome = head ∨
        ∃ value r, head = .success value r ∧
          ((next value).place false path).Yields library r outcome) := by
  constructor
  · intro h
    obtain ⟨starts, last, runs⟩ := h
    obtain ⟨tried, head, middle, hbody, ⟨stopped, rfl, -, -⟩ | ⟨value, r, more, rfl, hnext, -⟩⟩ :=
      runs_flatMap_iff.mp runs
    · exact ⟨outcome, hbody.yields, .inl ⟨stopped, rfl⟩⟩
    · exact ⟨_, hbody.yields, .inr ⟨value, r, rfl, (yields_place_iff path).mp hnext.yields⟩⟩
  · intro h
    obtain ⟨head, ⟨tried, middle, hbody⟩, ⟨stopped, rfl⟩ | ⟨value, r, rfl, hnext⟩⟩ := h
    · exact ⟨_, middle, hbody.flatMap_of_stopped stopped next⟩
    · have hnext := (yields_place_iff [middle.roots]).mp hnext
      obtain ⟨more, last, hnext⟩ := hnext.runs middle.fresh.2
      exact ⟨_, last, hbody.flatMap hnext⟩

theorem Yields.sequence_first {combine : Value → Value → Value}
    (h : (Parser.sequence combine first second).Yields library input outcome) :
    ∃ head, first.Yields library input head := by
  obtain ⟨head, hhead, -⟩ := yields_sequence_iff.mp h
  exact ⟨head, hhead⟩

theorem Yields.choice_first (h : (Parser.choice first second).Yields library input outcome) :
    ∃ head, first.Yields library input head := by
  obtain ⟨head, hhead, -⟩ := yields_choice_iff.mp h
  exact ⟨head, hhead⟩

theorem yields_fixpoint_iff {site : Site} {name : String} :
    (Parser.fixpoint site name body).Yields library input outcome ↔
      (Parser.unfold site name body).Yields library input outcome := by
  constructor
  · intro h
    obtain ⟨starts, last, runs⟩ := h
    obtain ⟨rest, -, runs⟩ := runs_fixpoint_iff.mp runs
    exact runs.yields
  · intro h
    obtain ⟨starts, last, runs⟩ := h.runs (({} : Store).buildRecursive site)
    exact ⟨_, last, runs_fixpoint_iff.mpr ⟨starts, rfl, runs⟩⟩

theorem yields_handle_iff {site : Site} {name : String} (kept : site.kept = true) :
    (Parser.handle site name body).Yields library input outcome ↔
      (Parser.fixpoint site name body).Yields library input outcome := by
  constructor
  · intro h
    obtain ⟨starts, last, runs⟩ := h
    obtain ⟨rest, -, runs⟩ := (runs_handle_iff kept).mp runs
    exact runs.yields
  · intro h
    obtain ⟨starts, last, runs⟩ := h
    exact ⟨_, last, (runs_handle_iff kept).mpr ⟨starts, rfl, runs⟩⟩

end Parser

end SafeDescent
