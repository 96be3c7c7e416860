import SafeDescent.Parser.Text
import SafeDescent.Proofs.Parser.Iteration
import SafeDescent.Proofs.Parser.Substitution
import SafeDescent.Reader.Text

namespace SafeDescent

open Round

variable {ρ ε : Type}

namespace Parser

/-- A repetition without bounds as the body of a recursive definition: the parser and then the same
again, or nothing. -/
def selfRepetition (name : String) (body : Parser ε) : Parser ε :=
  .choice (.prepend .list body (.reference (.binder name))) (.succeed (.list []))

/-- The name is not open in the parser: whatever it means, nothing changes. -/
def Lacks (parser : Parser ε) (name : String) : Prop :=
  ∀ other, parser.substitute (only (.binder name) other) = parser

section

variable {site : Site} {name : String}

theorem Lacks.place {parser handle : Parser ε} (lacks : parser.Lacks name) (h : Sealed handle)
    (kept : Bool) (path : List Nat) :
    (parser.place kept path).substitute (only (.binder name) handle) = parser.place kept path := by
  rw [← place_substitute (sealing_only h _), lacks]

theorem unfold_selfRepetition (same : body.substitute
      (only (.binder name) (.handle site name (selfRepetition name body))) = body) :
    unfold site name (selfRepetition name body) =
      .choice (.prepend .list body (.handle site name (selfRepetition name body)))
        (.succeed (.list [])) := by
  simp only [unfold, selfRepetition, prepend, succeed, substitute] at same ⊢
  rw [same]
  simp [only]

end

variable [Reader ρ ε] [Element ε] [DecidableEq ε] {library : Library ε} {body : Parser ε}
  {input : ρ} {outcome : Outcome ρ Value} {store last : Store} {starts : List (Start ρ ε)}
  {site : Site} {name : String}

/-- The parser succeeds some times in a row, and the next time it does not. -/
def Exhausts (library : Library ε) (body : Parser ε) (input : ρ) (outcome : Outcome ρ Value) :
    Prop :=
  ∃ rounds r ended, Iterates library body input rounds r ∧ ended.isSuccess = false ∧
    body.Yields library r ended ∧ outcome = ended.afterRounds 0 rounds r

theorem yields_unbounded_iff (moves : body.Moves ρ library) :
    (repeated 0 none body).Yields library input outcome ↔ Exhausts library body input outcome := by
  have incomplete {rounds : List (Round ρ)} {r : ρ} (h : Iterates library body input rounds r) :
      ¬ Complete 0 none rounds := by
    intro complete
    rcases complete with reached | stalls
    · cases reached
    · exact h.not_stallAfter moves 0 stalls
  rw [repeated, yields_many_iff]
  constructor
  · intro h
    obtain ⟨rounds, r, iterates, -, ⟨complete, -⟩ | ⟨-, ended, stopped, yields, he⟩⟩ := h
    · exact absurd complete (incomplete iterates)
    · exact ⟨rounds, r, ended, iterates, stopped, yields, he⟩
  · intro h
    obtain ⟨rounds, r, ended, iterates, stopped, yields, he⟩ := h
    refine ⟨rounds, r, iterates, ?_, .inr ⟨incomplete iterates, ended, stopped, yields, he⟩⟩
    intro earlier round later he
    subst he
    obtain ⟨middle, first, -⟩ := iterates_append.mp iterates
    exact incomplete first

omit [DecidableEq ε] [Element ε] in
theorem afterRounds_cons {ended : Outcome ρ Value} (stopped : ended.isSuccess = false)
    (round : Round ρ) (rounds : List (Round ρ)) (r : ρ) :
    (ended.afterRounds 0 rounds r).map (Shape.list.prepend round.value) =
      ended.afterRounds 0 (round :: rounds) r :=
  Outcome.map_afterRounds rfl (by simp) stopped

theorem Exhausts.cons {r : ρ} {value : Value} (yields : body.Yields library input (.success value r))
    (h : Exhausts library body r outcome) :
    Exhausts library body input (outcome.map (Shape.list.prepend value)) := by
  obtain ⟨rounds, last, ended, iterates, stopped, ends, rfl⟩ := h
  exact ⟨⟨input, value, r⟩ :: rounds, last, ended, .cons yields iterates, stopped, ends,
    afterRounds_cons stopped ⟨input, value, r⟩ rounds last⟩

theorem Exhausts.ne_failure (h : Exhausts library body input outcome) (message : String)
    (stopped : ρ) : outcome ≠ .failure message stopped := by
  obtain ⟨rounds, last, ended, -, -, -, rfl⟩ := h
  exact ended.afterRounds_ne_failure rounds last message stopped

theorem Runs.exhausts (kept : site.kept = true)
    (same : body.substitute (only (.binder name) (.handle site name (selfRepetition name body))) = body)
    (h : (Parser.fixpoint site name (selfRepetition name body)).Runs library input store starts outcome
      last) : Exhausts library body input outcome := by
  -- Each level is one round, and the level inside it starts less.
  induction hn : starts.length using Nat.strongRecOn generalizing input store starts outcome last with
  | ind n ih =>
  obtain ⟨rest, rfl, level⟩ := runs_fixpoint_iff.mp h
  rw [unfold_selfRepetition same] at level
  obtain ⟨tried, front, middle, hfront, choice⟩ := runs_choice_iff.mp level
  obtain ⟨first, head, next, hhead, sequence⟩ := runs_sequence_iff.mp hfront
  rcases sequence with ⟨stopped, rfl, rfl, rfl⟩ | ⟨value, r, inner, other, rfl, hinner, rfl, rfl⟩
  · refine ⟨[], input, front, .nil input, stopped, hhead.yields, ?_⟩
    rcases choice with ⟨settled, rfl, -, -⟩ | ⟨message, there, more, second, rfl, hsecond, rfl, -⟩
    · cases outcome with
      | success value r => cases stopped
      | failure message r => exact absurd rfl (settled message r)
      | error message r => rfl
    · obtain ⟨rfl, -, -⟩ := runs_primitive_iff.mp hsecond
      rfl
  · obtain ⟨again, rfl, hagain⟩ := (runs_handle_iff kept).mp hinner
    have shorter : again.length < n := by
      rcases choice with ⟨-, -, -, rfl⟩ | ⟨_, _, more, _, -, -, -, rfl⟩ <;> simp at hn <;> omega
    have exhausts : Exhausts library body r other := ih _ shorter hagain rfl
    -- The second alternative is out of reach: the recursive definition never fails inside.
    rcases choice with ⟨-, rfl, -, -⟩ | ⟨message, there, more, second, he, -, -, -⟩
    · exact exhausts.cons hhead.yields
    · cases other with
      | failure message r => exact absurd rfl (exhausts.ne_failure message r)
      | success value r => cases he
      | error message r => cases he

theorem Exhausts.yields (kept : site.kept = true)
    (same : body.substitute (only (.binder name) (.handle site name (selfRepetition name body))) = body)
    (h : Exhausts library body input outcome) :
    (Parser.fixpoint site name (selfRepetition name body)).Yields library input outcome := by
  obtain ⟨rounds, r, ended, iterates, stopped, ends, rfl⟩ := h
  induction iterates with
  | nil input =>
    rw [yields_fixpoint_iff, unfold_selfRepetition same, yields_choice_iff]
    refine ⟨ended, yields_sequence_iff.mpr ⟨ended, ends, .inl ⟨stopped, rfl⟩⟩, ?_⟩
    cases ended with
    | success value next => cases stopped
    | failure message next =>
      exact .inr ⟨message, next, .success (.list []) input, rfl, yields_primitive_iff.mpr rfl, rfl⟩
    | error message next => exact .inl ⟨nofun, rfl⟩
  | @cons input next r value rounds yields iterates ih =>
    have inner := ih ends
    have exhausts : Exhausts library body next (ended.afterRounds 0 rounds r) :=
      ⟨rounds, r, ended, iterates, stopped, ends, rfl⟩
    have joined := afterRounds_cons stopped ⟨input, value, next⟩ rounds r
    rw [← joined, yields_fixpoint_iff, unfold_selfRepetition same, yields_choice_iff]
    refine ⟨_, yields_sequence_iff.mpr ⟨_, yields, .inr ⟨value, next, _, rfl,
      (yields_handle_iff kept).mpr inner, rfl⟩⟩, .inl ⟨?_, rfl⟩⟩
    exact (exhausts.cons yields).ne_failure

end Parser

/-- A repetition without bounds, of a parser that never succeeds where it started, answers like the
recursive definition that runs the parser and then itself, or nothing: they end for the same inputs,
with the same values in the same order, or the same message, at the same position. The recursive
definition is held while it runs, and its name means nothing in the parser. -/
theorem repeated_agrees_selfRepetition {ρ ε : Type} [Reader ρ ε] [Element ε] [DecidableEq ε]
    (library : Library ε) (name : String) (body : Parser ε) (lacks : body.Lacks name)
    (moves : (body.place true []).Moves ρ library) (kept : Bool) (path path' : List Nat)
    (input : ρ) :
    Parser.Agree library ((Parser.repeated 0 none body).place kept path)
      ((Parser.recursive name (.selfRepetition name body)).place true path') input := by
  refine Parser.agree_of_yields fun outcome => ?_
  let level := 0 :: 0 :: 0 :: path'
  have placed : (Parser.recursive name (.selfRepetition name body)).place true path' =
      .fixpoint ⟨path', true, none⟩ name (.selfRepetition name (body.place true level)) := rfl
  have same := lacks.place (.handle ⟨path', true, none⟩ name (.selfRepetition name (body.place true level)))
    true level
  rw [placed, Parser.yields_repeated_place_iff level, Parser.yields_unbounded_iff (moves.place level)]
  constructor
  · intro exhausts
    exact exhausts.yields rfl same
  · intro yields
    obtain ⟨starts, last, runs⟩ := yields
    exact runs.exhausts rfl same

/-- Letters up to another one, by a recursive definition. -/
theorem repeated_agrees_selfRepetition_letters :
    let library : Library Char := fun _ => none
    let letter : Parser Char := .character 'a'
    let start := TextReader.ofString "aab"
    letter.Lacks "more" ∧ letter.Moves TextReader library ∧
      ({} : Store).Answers library .part
        ((Parser.recursive "more" (.selfRepetition "more" letter)).place true [1]) start
        (.success (.list [.char 'a', .char 'a']) (Reader.advance 2 start)) := by
  intro library letter start
  have lacks : letter.Lacks "more" := fun _ => rfl
  have moves : letter.Moves TextReader library := (Parser.consumes_satisfy _ _).moves
  have repeats : ({} : Store).Answers library .part ((Parser.repeated 0 none letter).place true [0])
      start (.success (.list [.char 'a', .char 'a']) (Reader.advance 2 start)) :=
    ⟨20, _, _, rfl, rfl⟩
  have agree := repeated_agrees_selfRepetition library "more" letter lacks moves true [0] [1] start
  exact ⟨lacks, moves, (agree .part {} {} _).mp repeats⟩

end SafeDescent
