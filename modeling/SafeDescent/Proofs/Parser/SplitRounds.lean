import SafeDescent.Proofs.Parser.Iteration

namespace SafeDescent

open Round

variable {ρ ε : Type} [Reader ρ ε]

section

variable {min least : Nat} {limit : Option Nat} {before rounds more : List (Round ρ)}

theorem Round.due_append :
    Due min limit before (rounds ++ more) ↔
      Due min limit before rounds ∧ Due min limit (before ++ rounds) more := by
  induction rounds generalizing before with
  | nil => simp [due_nil]
  | cons round rounds ih => simp [due_cons, ih, and_assoc]

theorem Round.not_complete_of_few (few : rounds.length < min)
    (bounded : ∀ most, limit = some most → min ≤ most) : ¬ Complete min limit rounds := by
  intro complete
  rcases complete with reached | stalls
  · have := bounded _ reached
    omega
  · have := stalls.1
    omega

theorem Round.due_of_length_le (few : rounds.length ≤ min)
    (bounded : ∀ most, limit = some most → min ≤ most) : Due min limit [] rounds := by
  intro earlier round later he
  have length := congrArg List.length he
  simp only [List.length_append, List.length_cons] at length
  exact not_complete_of_few (by rw [List.nil_append]; omega) bounded

/-- Rounds that come first leave it to those after them whether all are complete, unless nothing
has to follow and the last of the first ones stalled. -/
theorem Round.complete_append (settled : least = 0 → limit = some 0 ∨ ¬ StallAfter 0 rounds) :
    Complete (rounds.length + least) (limit.map (rounds.length + ·)) (rounds ++ more) ↔
      Complete least limit more := by
  have full : limit.map (rounds.length + ·) = some (rounds ++ more).length ↔
      limit = some more.length := by
    cases limit <;> simp
  unfold Complete
  rw [full]
  cases more using List.reverseRecOn with
  | nil =>
    refine or_congr_right' ?_
    intro open'
    rw [List.append_nil]
    constructor
    · intro stalls
      have none : least = 0 := by have := stalls.1; omega
      exact absurd ⟨Nat.zero_le _, stalls.2⟩ ((settled none).resolve_left open')
    · intro stalls
      obtain ⟨-, round, last, -⟩ := stalls
      cases last
  | append_singleton more round _ =>
    have enough : rounds.length + least ≤ (rounds ++ more).length + 1 ↔ least ≤ more.length + 1 := by
      rw [List.length_append]
      omega
    rw [← List.append_assoc, stallAfter_snoc, stallAfter_snoc, enough]

theorem Round.due_append_iff (settled : least = 0 → limit = some 0 ∨ ¬ StallAfter 0 rounds)
    (bounded : ∀ most, limit = some most → least ≤ most) :
    Due (rounds.length + least) (limit.map (rounds.length + ·)) [] (rounds ++ more) ↔
      Due least limit [] more := by
  have bounded' : ∀ most, limit.map (rounds.length + ·) = some most → rounds.length + least ≤ most := by
    intro most he
    obtain ⟨most', hmost, rfl⟩ := Option.map_eq_some_iff.mp he
    exact Nat.add_le_add_left (bounded most' hmost) _
  have first : Due (rounds.length + least) (limit.map (rounds.length + ·)) [] rounds :=
    due_of_length_le (Nat.le_add_right _ _) bounded'
  rw [due_append, and_iff_right first]
  simp only [Due, List.nil_append, complete_append settled]

end

variable [Element ε] [DecidableEq ε]

namespace Parser

section

variable {library : Library ε} {body : Parser ε} {input r : ρ} {rounds more : List (Round ρ)}
  {limit : Option Nat} {outcome ended : Outcome ρ Value}

theorem concludes_of_few {min : Nat} (few : rounds.length < min)
    (bounded : ∀ most, limit = some most → min ≤ most) :
    Concludes library body min limit rounds r outcome ↔
      outcome.isSuccess = false ∧ body.Yields library r outcome := by
  have incomplete := not_complete_of_few few bounded
  have same : ∀ ended : Outcome ρ Value, ended.afterRounds min rounds r = ended := by
    intro ended
    cases ended with
    | success value next => rfl
    | failure message next => simp [Outcome.afterRounds, few]
    | error message next => rfl
  simp [Concludes, incomplete, same]

/-- A repetition with a fixed number of rounds. -/
theorem yields_exactly_iff {count : Nat} :
    (repeated count (some count) body).Yields library input outcome ↔
      ∃ rounds r, Iterates library body input rounds r ∧
        (rounds.length = count ∧ outcome = .success (Round.values rounds) r ∨
          rounds.length < count ∧ outcome.isSuccess = false ∧ body.Yields library r outcome) := by
  have most : (Bounds.between count (some count)).max = some count := by simp [Bounds.between]
  have bounded : ∀ most, some count = some most → count ≤ most := by
    intro most he
    exact Nat.le_of_eq (Option.some.inj he)
  rw [repeated, yields_many_iff, most]
  constructor
  · intro h
    obtain ⟨rounds, r, iterates, due, concludes⟩ := h
    refine ⟨rounds, r, iterates, ?_⟩
    have le : rounds.length ≤ count := by simpa using due.length_le rfl (Nat.zero_le count)
    rcases Nat.lt_or_eq_of_le le with few | full
    · exact .inr ⟨few, (concludes_of_few few bounded).mp concludes⟩
    · have complete : Complete count (some count) rounds := .inl (by rw [full])
      rcases concludes with ⟨-, he⟩ | ⟨incomplete, -⟩
      · exact .inl ⟨full, he⟩
      · exact absurd complete incomplete
  · intro h
    obtain ⟨rounds, r, iterates, ⟨full, he⟩ | ⟨few, stopped⟩⟩ := h
    · have complete : Complete count (some count) rounds := .inl (by rw [full])
      exact ⟨rounds, r, iterates, due_of_length_le (Nat.le_of_eq full) bounded,
        .inl ⟨complete, he⟩⟩
    · exact ⟨rounds, r, iterates, due_of_length_le (Nat.le_of_lt few) bounded,
        (concludes_of_few few bounded).mpr stopped⟩

theorem concludes_append {least : Nat}
    (settled : least = 0 → limit = some 0 ∨ ¬ StallAfter 0 rounds) :
    Concludes library body (rounds.length + least) (limit.map (rounds.length + ·)) (rounds ++ more) r
        outcome ↔
      ∃ other, Concludes library body least limit more r other ∧
        outcome = other.map (Shape.list.concat (Round.values rounds)) := by
  have values : Shape.list.concat (Round.values rounds) (Round.values more) =
      Round.values (rounds ++ more) :=
    congrArg Value.list List.map_append.symm
  have enough : least ≤ more.length ↔ rounds.length + least ≤ (rounds ++ more).length := by
    simp
  unfold Concludes
  rw [complete_append settled]
  constructor
  · intro h
    rcases h with ⟨complete, rfl⟩ | ⟨incomplete, ended, stopped, yields, rfl⟩
    · exact ⟨_, .inl ⟨complete, rfl⟩, by rw [Outcome.map, values]⟩
    · exact ⟨_, .inr ⟨incomplete, ended, stopped, yields, rfl⟩,
        (Outcome.map_afterRounds values enough stopped).symm⟩
  · intro h
    obtain ⟨other, ⟨complete, rfl⟩ | ⟨incomplete, ended, stopped, yields, rfl⟩, rfl⟩ := h
    · exact .inl ⟨complete, by rw [Outcome.map, values]⟩
    · exact .inr ⟨incomplete, ended, stopped, yields, Outcome.map_afterRounds values enough stopped⟩

end

end Parser

end SafeDescent
