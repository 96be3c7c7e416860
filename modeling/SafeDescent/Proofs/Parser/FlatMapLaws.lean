import SafeDescent.Proofs.Parser.InterchangeableParsers

namespace SafeDescent

variable {ε : Type} [Element ε] [DecidableEq ε]

namespace Parser

variable {library : Library ε} {names : String → Prop} {extra extra' : Nat}
  {parser parser' body body' : Parser ε}

theorem succeed_flatMap_interchangeable {value : Value} {next : Value → Parser ε}
    (h : ∀ root, ((next value).place false [root]).Interchangeable library names 0 0 parser) :
    (flatMap (succeed value) next).Interchangeable library names 2 0 parser := by
  refine .of_runs (fun ρ _ input store store' last starts outcome runs => ?_)
    fun ρ _ input outcome yields => ?_
  · obtain ⟨tried, head, middle, hbody, ended⟩ := runs_flatMap_iff.mp runs
    obtain ⟨rfl, rfl, rfl⟩ := runs_primitive_iff.mp hbody
    obtain ⟨stopped, -⟩ | ⟨_, _, more, succeeded, hnext, rfl⟩ := ended
    · cases stopped
    · obtain ⟨rfl, rfl⟩ := Outcome.success.inj succeeded
      obtain ⟨starts', last', runs', aligned⟩ := (h _).runs hnext store'
      exact ⟨starts', last', runs', .first trivial (.first trivial aligned)⟩
  · exact (yields_flatMap_iff [0]).mpr
      ⟨_, yields_succeed value, .inr ⟨value, input, rfl, (h 0).yields_iff.mpr yields⟩⟩

theorem flatMap_succeed_interchangeable
    (h : body.Interchangeable library names 0 0 body') :
    (flatMap body succeed).Interchangeable library names 2 0 body' := by
  refine .of_runs (fun ρ _ input store store' last starts outcome runs => ?_)
    fun ρ _ input outcome yields => ?_
  · obtain ⟨tried, head, middle, hbody, ended⟩ := runs_flatMap_iff.mp runs
    obtain ⟨starts', last', runs', aligned⟩ := h.runs hbody store'
    obtain ⟨-, rfl, rfl, rfl⟩ | ⟨value, r, more, rfl, hnext, rfl⟩ := ended
    · exact ⟨starts', last', runs', .first trivial aligned.widen⟩
    · obtain ⟨rfl, rfl, rfl⟩ := (runs_succeed value).unique.mp hnext
      exact ⟨starts', last', runs', .first trivial (aligned.snoc_first trivial)⟩
  · have ended := h.yields_iff.mpr yields
    refine (yields_flatMap_iff []).mpr ⟨outcome, ended, ?_⟩
    cases outcome with
    | success value r => exact .inr ⟨value, r, rfl, yields_succeed value⟩
    | failure message r => exact .inl ⟨rfl, rfl⟩
    | error message r => exact .inl ⟨rfl, rfl⟩

theorem flatMap_flatMap_interchangeable {next after : Value → Parser ε}
    (hl : library.Portable names) (h : body.Interchangeable library names 0 0 body') :
    (flatMap (flatMap body next) after).Interchangeable library names 2 2
      (flatMap body' fun value => flatMap (next value) after) := by
  have moved (parser : Parser ε) (path path' : List Nat) :
      (parser.place false path).Interchangeable library names 0 0 (parser.place false path') :=
    interchangeable_place hl parser (.inl rfl) path path'
  refine .of_runs (fun ρ _ input store store' last starts outcome runs => ?_)
    fun ρ _ input outcome yields => ?_
  · obtain ⟨inner, head, middle, hinner, ended⟩ := runs_flatMap_iff.mp runs
    obtain ⟨tried, first, halfway, hbody, begun⟩ := runs_flatMap_iff.mp hinner
    obtain ⟨tried', halfway', hbody', aligned⟩ := h.runs hbody store'
    obtain ⟨stopped, rfl, rfl, rfl⟩ | ⟨value, r, more, rfl, hnext, rfl⟩ := begun
    · -- The body stops, and neither function is asked.
      obtain ⟨-, rfl, rfl, rfl⟩ | ⟨value, r, rest, rfl, -, -⟩ := ended
      · exact ⟨_, halfway', hbody'.flatMap_of_stopped stopped _,
          .first trivial (.first trivial (.second trivial aligned.widen))⟩
      · cases stopped
    · obtain ⟨more', middle', hnext', aligned'⟩ :=
        (moved (next value) [halfway.roots] [0, halfway'.roots]).runs hnext halfway'.fresh.2
      obtain ⟨stopped, rfl, rfl, rfl⟩ | ⟨value', r', rest, rfl, hafter, rfl⟩ := ended
      · exact ⟨_, middle', hbody'.flatMap (hnext'.flatMap_of_stopped stopped _),
          .first trivial (.first trivial (.second trivial
            (aligned.append (.second (by trivial) aligned'))))⟩
      · obtain ⟨rest', last', hafter', aligned''⟩ :=
          (moved (after value') [middle.roots] [middle'.roots]).runs hafter middle'.fresh.2
        refine ⟨_, last', hbody'.flatMap (hnext'.flatMap hafter'), ?_⟩
        rw [List.cons_append, List.append_assoc]
        exact .first trivial (.first trivial (.second trivial
          (aligned.append (.second (by trivial) (aligned'.append aligned'')))))
  · obtain ⟨head, hbody, rest⟩ := (yields_flatMap_iff [0]).mp yields
    have hbody := h.yields_iff.mpr hbody
    obtain ⟨stopped, rfl⟩ | ⟨value, r, rfl, inside⟩ := rest
    · exact (yields_flatMap_iff []).mpr ⟨outcome,
        (yields_flatMap_iff []).mpr ⟨outcome, hbody, .inl ⟨stopped, rfl⟩⟩, .inl ⟨stopped, rfl⟩⟩
    · obtain ⟨head, hnext, rest⟩ := (yields_flatMap_iff []).mp inside
      exact (yields_flatMap_iff []).mpr ⟨head,
        (yields_flatMap_iff [0, 0]).mpr ⟨_, hbody, .inr ⟨value, r, rfl, hnext⟩⟩, rest⟩

theorem map_interchangeable {f : Value → Value}
    (h : body.Interchangeable library names 0 0 body') :
    (body.map f).Interchangeable library names 1 2 (flatMap body' fun value => succeed (f value)) := by
  refine .of_runs (fun ρ _ input store store' last starts outcome runs => ?_)
    fun ρ _ input outcome yields => ?_
  · obtain ⟨tried, ended, hbody, rfl, rfl⟩ := runs_adjust_iff.mp runs
    obtain ⟨tried', last', hbody', aligned⟩ := h.runs hbody store'
    cases ended with
    | success value r =>
      exact ⟨_, last'.fresh.2, hbody'.flatMap (runs_succeed (f value)),
        .first trivial (.second trivial (aligned.snoc_second trivial))⟩
    | failure message r =>
      exact ⟨_, last', hbody'.flatMap_of_stopped rfl _,
        .first trivial (.second trivial aligned.widen)⟩
    | error message r =>
      exact ⟨_, last', hbody'.flatMap_of_stopped rfl _,
        .first trivial (.second trivial aligned.widen)⟩
  · obtain ⟨head, hbody, rest⟩ := (yields_flatMap_iff []).mp yields
    refine yields_adjust_iff.mpr ⟨head, h.yields_iff.mpr hbody, ?_⟩
    obtain ⟨stopped, rfl⟩ | ⟨value, r, rfl, hnext⟩ := rest
    · cases outcome with
      | success value r => cases stopped
      | failure message r => rfl
      | error message r => rfl
    · exact hnext.unique (yields_succeed (f value))

theorem map_id_interchangeable (h : body.Interchangeable library names 0 0 body') :
    (body.map id).Interchangeable library names 1 0 body' := by
  have unchanged {ρ : Type} (outcome : Outcome ρ Value) : outcome.map id = outcome :=
    Outcome.map_eq_self fun _ _ _ => rfl
  refine .of_runs (fun ρ _ input store store' last starts outcome runs => ?_)
    fun ρ _ input outcome yields => ?_
  · obtain ⟨tried, ended, hbody, rfl, rfl⟩ := runs_adjust_iff.mp runs
    obtain ⟨tried', last', hbody', aligned⟩ := h.runs hbody store'
    rw [← unchanged ended] at hbody'
    exact ⟨tried', last', hbody', .first trivial aligned⟩
  · exact yields_adjust_iff.mpr ⟨outcome, h.yields_iff.mpr yields, (unchanged outcome).symm⟩

/-- In the function, any parser may follow that runs as the second of the sequence does. -/
theorem sequence_interchangeable {combine : Value → Value → Value} {first first' second after : Parser ε}
    (h : first.Interchangeable library names 0 0 first')
    (h' : ∀ root, second.Interchangeable library names 0 extra' (after.place false [0, root])) :
    (sequence combine first second).Interchangeable library names 1 (extra' + 2)
      (flatMap first' fun value => after.map (combine value)) := by
  refine .of_runs (fun ρ _ input store store' last starts outcome runs => ?_)
    fun ρ _ input outcome yields => ?_
  · obtain ⟨tried, head, middle, hfirst, ended⟩ := runs_sequence_iff.mp runs
    obtain ⟨tried', middle', hfirst', aligned⟩ := h.runs hfirst store'
    obtain ⟨stopped, rfl, rfl, rfl⟩ | ⟨value, r, more, other, rfl, hsecond, rfl, rfl⟩ := ended
    · exact ⟨_, middle', hfirst'.flatMap_of_stopped stopped _,
        .first trivial (.second trivial aligned.widen)⟩
    · obtain ⟨more', last', hafter, aligned'⟩ := (h' middle'.roots).runs hsecond middle'.fresh.2
      have inside : ((after.map (combine value)).place false [middle'.roots]).Runs library r
          middle'.fresh.2 (⟨(after.map (combine value)).place false [middle'.roots], r⟩ :: more')
          (other.map (combine value)) last' :=
        runs_adjust_iff.mpr ⟨more', other, hafter, rfl, rfl⟩
      exact ⟨_, last', hfirst'.flatMap inside,
        .first trivial (.second trivial (aligned.append (.second (by trivial) aligned')))⟩
  · obtain ⟨head, hfirst, rest⟩ := (yields_flatMap_iff [0]).mp yields
    refine yields_sequence_iff.mpr ⟨head, h.yields_iff.mpr hfirst, ?_⟩
    obtain ⟨stopped, rfl⟩ | ⟨value, r, rfl, hnext⟩ := rest
    · exact .inl ⟨stopped, rfl⟩
    · obtain ⟨other, hafter, rfl⟩ := yields_adjust_iff.mp hnext
      exact .inr ⟨value, r, other, rfl, (h' 0).yields_iff.mpr hafter, rfl⟩

end Parser

end SafeDescent
