import SafeDescent.Proofs.Parser.SuccessiveRuns

namespace SafeDescent

variable {ρ ε β : Type}

namespace Parser

variable [Reader ρ ε] [Element ε] [DecidableEq ε]

section

variable {library : Library ε} {parser parser' : Parser ε} {leaves leaves' : List (Leaf ε β)}
  {read read' : Value → List β} {input : ρ} {store last : Store} {starts : List (Start ρ ε)}
  {ran : List (List (Start ρ ε))} {outcome : Outcome ρ Value} {ended : Outcome ρ (List Value)}

/-- A run of a nest is a course through its leaves. -/
theorem Nested.runs (h : Nested parser leaves read)
    (run : parser.Runs library input store starts outcome last) :
    ∃ runs ended, Successive library (leaves.map Prod.fst) input store runs ended last ∧
      Woven starts runs.flatten ∧ outcome.map read = ended.map (contents leaves) := by
  induction h generalizing input store starts outcome last with
  | leaf parser read =>
    refine ⟨[starts], _, run.successive, ?_, ?_⟩
    · rw [List.flatten_singleton]
      exact .refl starts
    · simp only [Outcome.map_map, contents_singleton]
  | @sequence combine first second leaves leaves' readFirst readSecond read hfirst hsecond joins ih ih' =>
    obtain ⟨tried, head, middle, runFirst, halted⟩ := runs_sequence_iff.mp run
    obtain ⟨before, begun, hbefore, wovenFirst, sameFirst⟩ := ih runFirst
    rw [List.map_append]
    obtain ⟨stopped, rfl, rfl, rfl⟩ | ⟨value, r, more, other, rfl, runSecond, rfl, rfl⟩ := halted
    · have halted : begun.isSuccess = false := by
        rw [← Outcome.isSuccess_eq_of_map_eq sameFirst, stopped]
      exact ⟨before, begun, hbefore.append_of_stopped halted _, .sequence wovenFirst,
        Outcome.map_eq_map_of_stopped stopped sameFirst ..⟩
    · obtain ⟨after, rest, hafter, wovenSecond, sameSecond⟩ := ih' runSecond
      cases begun with
      | success values r' =>
        obtain ⟨hread, rfl⟩ := Outcome.success.inj sameFirst
        have lengths : values.length = leaves.length := by
          rw [hbefore.length_eq, List.length_map]
        refine ⟨before ++ after, _, hbefore.append hafter, ?_, ?_⟩
        · rw [List.flatten_append]
          exact .sequence (wovenFirst.append wovenSecond)
        · calc
            (other.map (combine value)).map read
              = (other.map readSecond).map (readFirst value ++ ·) := by
                simp only [Outcome.map_map, joins]
            _ = (rest.map (contents leaves')).map (contents leaves values ++ ·) := by
                rw [sameSecond, hread]
            _ = (rest.map (values ++ ·)).map (contents (leaves ++ leaves')) := by
                simp only [Outcome.map_map, contents_append lengths]
      | failure message r' => cases sameFirst
      | error message r' => cases sameFirst

/-- Where the leaves take a course, the nest runs. -/
theorem Nested.exists_runs (h : Nested parser leaves read)
    (course : Successive library (leaves.map Prod.fst) input store ran ended last) :
    ∃ starts outcome, parser.Runs library input store starts outcome last := by
  induction h generalizing input store ran ended last with
  | leaf parser read =>
    cases course with
    | stopped _ run _ => exact ⟨_, _, run⟩
    | next run later =>
      cases later
      exact ⟨_, _, run⟩
  | @sequence combine first second leaves leaves' readFirst readSecond read hfirst hsecond joins ih ih' =>
    rw [List.map_append] at course
    obtain ⟨hbefore, halted⟩ | ⟨before, after, values, r, middle, rest, rfl, rfl, hbefore, hafter⟩ :=
      course.split
    · obtain ⟨starts, outcome, runFirst⟩ := ih hbefore
      obtain ⟨_, _, course, -, same⟩ := hfirst.runs runFirst
      obtain ⟨-, rfl, -⟩ := hbefore.unique course
      have stopped : outcome.isSuccess = false := by
        rw [Outcome.isSuccess_eq_of_map_eq same, halted]
      exact ⟨_, outcome, runFirst.sequence_of_stopped stopped combine second⟩
    · obtain ⟨starts, outcome, runFirst⟩ := ih hbefore
      obtain ⟨_, _, course, -, same⟩ := hfirst.runs runFirst
      obtain ⟨-, rfl, -⟩ := hbefore.unique course
      obtain ⟨more, other, runSecond⟩ := ih' hafter
      cases outcome with
      | success value r' =>
        obtain ⟨-, rfl⟩ := Outcome.success.inj same
        exact ⟨_, _, runFirst.sequence runSecond combine⟩
      | failure message r' => cases same
      | error message r' => cases same

/-- The parser runs its leaves in order, each from where the one before it stopped. It ends like the
first leaf that does not succeed, of which no later leaf is started, and its value is read as what the
leaves contribute in order. -/
def InOrder (library : Library ε) (parser : Parser ε) (leaves : List (Leaf ε β))
    (read : Value → List β) : Prop :=
  ∀ (ρ : Type) [Reader ρ ε] (input : ρ) (store : Store),
    (∀ starts outcome last, parser.Runs library input store starts outcome last →
      ∃ runs ended, Successive library (leaves.map Prod.fst) input store runs ended last ∧
        Woven starts runs.flatten ∧ outcome.map read = ended.map (contents leaves)) ∧
    ∀ runs ended last, Successive library (leaves.map Prod.fst) input store runs ended last →
      ∃ starts outcome, parser.Runs library input store starts outcome last

theorem Nested.inOrder (h : Nested parser leaves read) (library : Library ε) :
    parser.InOrder library leaves read :=
  fun _ _ _ _ => ⟨fun _ _ _ run => h.runs run, fun _ _ _ course => h.exists_runs course⟩

/-- Two nests of the same parsers end alike at any two places: each ends as the leaves at its place do,
which yield the same values. -/
theorem Nested.yields (h : Nested parser leaves read) (h' : Nested parser' leaves' read')
    (same : leaves'.map Prod.fst = leaves.map Prod.fst) {kept : Bool} {path : List Nat}
    (yields : (parser.place kept path).Yields library input outcome) (path' : List Nat) :
    ∃ (outcome' : Outcome ρ Value) (ended : Outcome ρ (List Value)),
      (parser'.place kept path').Yields library input outcome' ∧
      outcome.map read = ended.map (contents leaves) ∧
      outcome'.map read' = ended.map (contents leaves') ∧
      ∀ values r, ended = .success values r → List.Forall₂ (fun leaf value =>
        ∃ path, ∃ input r : ρ, (leaf.1.place kept path).Yields library input (.success value r))
          leaves values := by
  obtain ⟨starts, last, run⟩ := yields
  obtain ⟨placed, nested, moved⟩ := h.place kept path
  obtain ⟨placed', nested', moved'⟩ := h'.place kept path'
  obtain ⟨ran, ended, course, -, read⟩ := nested.runs run
  obtain ⟨ran', last', course'⟩ := course.alike (Leaf.Moved.alike moved moved' same) {}
  obtain ⟨starts', outcome', run'⟩ := nested'.exists_runs course'
  obtain ⟨_, ended', course'', -, read'⟩ := nested'.runs run'
  obtain ⟨-, hended, -⟩ := course'.unique course''
  rw [hended] at read'
  rw [contents_moved moved] at read
  rw [contents_moved moved'] at read'
  refine ⟨outcome', ended, ⟨starts', last', run'⟩, read, read', fun values r succeeded => ?_⟩
  subst succeeded
  exact Leaf.Moved.forall₂ moved course.forall₂_yields

end

end Parser

end SafeDescent
