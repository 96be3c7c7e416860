import SafeDescent.Parser.Text
import SafeDescent.Proofs.Parser.OpenedParsers
import SafeDescent.Proofs.Parser.ReachedPositions
import SafeDescent.Reader.Text

namespace SafeDescent

variable {ρ ε : Type} [Reader ρ ε] [Element ε] [DecidableEq ε]

theorem matchLiteral_within {R : ρ → Prop} (closed : Reader.Closed R) (literal rest : List ε)
    {r : ρ} (hr : R r) : R (matchLiteral literal rest r).remaining := by
  induction rest generalizing r with
  | nil => exact hr
  | cons expected rest ih =>
    unfold matchLiteral
    split
    next x next read =>
      split
      · exact ih (closed.read hr read)
      · exact hr
    next => exact hr

theorem Primitive.run_within {R : ρ → Prop} (closed : Reader.Closed R) (p : Primitive ε) {r : ρ}
    (hr : R r) : R (p.run r).remaining := by
  cases p with
  | succeed value => exact hr
  | fail message => exact hr
  | fatal message => exact hr
  | any =>
    simp only [Primitive.run]
    split
    next x next read => exact closed.read hr read
    next => exact hr
  | satisfy accepts expected =>
    simp only [Primitive.run]
    split
    next x next read =>
      split
      · exact closed.read hr read
      · exact hr
    next => exact hr
  | literal expected => exact matchLiteral_within closed expected expected hr
  | endOfInput =>
    simp only [Primitive.run]
    split <;> exact hr

/-- Every step of a parse goes on from a position that it was given, or from one after elements
that were read there. -/
theorem parsing_keeps_within (library : Library ε) {R : ρ → Prop} (closed : Reader.Closed R) :
    (parsing library).Keeps (fun start => R start.input) (Frame.Within R)
      (fun outcome => R outcome.remaining) (fun _ => True) where
  call := by
    rintro ⟨parser, input⟩ store hi -
    refine ⟨?_, trivial⟩
    cases parser with
    | primitive p => exact .done (p.run_within closed hi)
    | sequence combine first second => exact .flatMap (.more hi) trivial
    | choice first second => exact .flatMap (.more hi) hi
    | many bounds body => exact Run.round_all hi hi fun _ => hi
    | chain join bounds operand separator =>
      simp only [parsing, Start.call]
      split
      · exact .done hi
      · exact .flatMap (.more hi) hi
    | adjust adjustment body => exact .flatMap (.more hi) hi
    | flatMap body next => exact .flatMap (.more hi) trivial
    | select body index branches => exact .flatMap (.more hi) trivial
    | tap id body => exact .flatMap (.more hi) trivial
    | deferred site body => exact .more hi
    | fixpoint site name body => exact .more hi
    | copied site name scope =>
      simp only [parsing, Start.call]
      split
      · exact .more hi
      · exact .done hi
    | reference target => exact .done hi
    | handle site name body =>
      simp only [parsing, Start.call]
      split
      · exact .more hi
      · exact .done hi
    | shared body => exact .more hi
  resume := by
    rintro frame outcome store hf ho -
    refine ⟨?_, trivial⟩
    cases frame with
    | following combine second =>
      cases outcome with
      | success value r => exact .flatMap (.more ho) trivial
      | failure message r => exact .done ho
      | error message r => exact .done ho
    | joining combine first =>
      refine .done ?_
      rw [Outcome.remaining_map]
      exact ho
    | otherwise second start =>
      cases outcome with
      | success value r => exact .done ho
      | failure message r => exact .flatMap (.more hf) ho
      | error message r => exact .done ho
    | comparing message stopped => exact .done (Outcome.furthest_within hf ho)
    | repeating bounds body values start => exact afterRound_all (fun _ hr => hr) (fun _ _ hr => hr) (fun _ _ hr => hr) hf ho ho
    | opening join bounds operand separator start =>
      exact afterOperand_all (fun _ hr => hr) (fun _ => trivial) (fun _ _ hr => hr) hf ho ho
    | folding join first =>
      refine .done ?_
      rw [Outcome.remaining_map]
      exact ho
    | adjusting adjustment start => exact .done (Adjustment.apply_within hf ho)
    | choosing next =>
      cases outcome with
      | success value r => exact .more ho
      | failure message r => exact .done ho
      | error message r => exact .done ho
    | selecting index branches =>
      cases outcome with
      | success value r => exact .more ho
      | failure message r => exact .done ho
      | error message r => exact .done ho
    | leaving id => exact .done ho

/-- A run stops at its input or some elements after it. -/
theorem Store.run_reaches {store store' : Store} {library : Library ε} {fuel : Nat}
    {parser : Parser ε} {input : ρ} {outcome : Outcome ρ Value}
    (h : store.run library fuel parser input = some (outcome, store')) :
    Reader.Reaches input outcome.remaining := by
  obtain ⟨final, hfinal, he⟩ := Option.map_eq_some_iff.mp h
  obtain ⟨rfl, -⟩ := Prod.mk.inj he
  have keeps := parsing_keeps_within library (Reader.closed_reaches input)
  exact (keeps.run (.more (.refl input)) trivial hfinal).1

/-- A parse moves forward along its input: it stops some elements after the position where it
started, and so neither before that position nor past the end. -/
theorem Store.parse_advances {store store' : Store} {library : Library ε} {fuel : Nat}
    {extent : Extent} {parser : Parser ε} {input : ρ} {report : Report ρ}
    (h : store.parse library fuel extent parser input = some (report, store')) :
    ∃ k, report.outcome.remaining = Reader.advance k input ∧ Reader.Holds k input ∧
      (∀ n, Reader.HoldsOnly n input → k ≤ n) ∧
      (Reader.Forward input →
        Reader.offset input ≤ Reader.offset report.outcome.remaining ∧
        ∀ n, Reader.HoldsOnly n input →
          Reader.offset report.outcome.remaining ≤ Reader.offset (Reader.advance n input)) := by
  have reported : (store.parse library fuel extent parser input).map
      (fun parsed => parsed.1.outcome) = some report.outcome := by rw [h]; rfl
  rw [store.map_outcome_parse] at reported
  obtain ⟨⟨outcome, last⟩, run, finish⟩ := Option.map_eq_some_iff.mp reported
  obtain ⟨k, holds, stops⟩ := Store.run_reaches run
  have remaining : report.outcome.remaining = Reader.advance k input := by
    rw [← finish, extent.remaining_finish, stops]
  refine ⟨k, remaining, holds, fun n only => holds.le only, ?_⟩
  intro forward
  rw [remaining]
  refine ⟨forward.offset_le holds (Nat.zero_le k), ?_⟩
  intro n only
  exact forward.offset_le only.1 (holds.le only)

/-- The first alternative reads three bytes before it fails, and the second one starts again. -/
theorem parse_advances_after_rewind :
    ∃ report store',
      ({} : Store).parse (fun _ => none) 40 .whole
          (.choice (.seq (.character 'é') (.seq (.character 'a') (.character 'x')))
            (.repeated 0 none .any))
          (TextReader.ofString "éab") = some (report, store') ∧
      ∃ k, report.outcome.remaining = Reader.advance k (TextReader.ofString "éab") ∧
        Reader.Holds k (TextReader.ofString "éab") ∧
        (∀ n, Reader.HoldsOnly n (TextReader.ofString "éab") → k ≤ n) ∧
        (Reader.Forward (TextReader.ofString "éab") →
          Reader.offset (TextReader.ofString "éab") ≤ Reader.offset report.outcome.remaining ∧
          ∀ n, Reader.HoldsOnly n (TextReader.ofString "éab") →
            Reader.offset report.outcome.remaining ≤
              Reader.offset (Reader.advance n (TextReader.ofString "éab"))) := by
  obtain ⟨report, store', parsed⟩ : ∃ report store',
      ({} : Store).parse (fun _ => none) 40 .whole
          (.choice (.seq (.character 'é') (.seq (.character 'a') (.character 'x')))
            (.repeated 0 none .any))
          (TextReader.ofString "éab") = some (report, store') := ⟨_, _, rfl⟩
  exact ⟨report, store', parsed, Store.parse_advances parsed⟩

end SafeDescent
