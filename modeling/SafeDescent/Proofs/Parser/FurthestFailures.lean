import Mathlib.Data.List.Basic
import Mathlib.Data.List.Induction
import SafeDescent.Proofs.Parser.Outcome

namespace SafeDescent

variable {ρ ε : Type} [Reader ρ ε]

namespace Outcome

/-- An outcome that ends the search for an alternative, given the outcomes before it: a success, or
an error that got further than all of them. -/
def Settles (earlier : List (Outcome ρ Value)) : Outcome ρ Value → Prop
  | .success _ _ => True
  | .failure _ _ => False
  | .error _ r => ∀ other ∈ earlier, Reader.offset other.remaining < Reader.offset r

/-- None of the outcomes ended the search. -/
def Unsettled (outcomes : List (Outcome ρ Value)) : Prop :=
  ∀ earlier outcome later, outcomes = earlier ++ outcome :: later → ¬ outcome.Settles earlier

/-- The first of the failures that got furthest of all outcomes. -/
def FirstFurthest (outcomes : List (Outcome ρ Value)) (message : String) (stopped : ρ) : Prop :=
  ∃ earlier later, outcomes = earlier ++ .failure message stopped :: later ∧
    (∀ other ∈ earlier, Reader.offset other.remaining < Reader.offset stopped) ∧
    ∀ other ∈ later, Reader.offset other.remaining ≤ Reader.offset stopped

variable {outcomes : List (Outcome ρ Value)} {outcome : Outcome ρ Value} {message : String}
  {stopped : ρ}

theorem unsettled_append_singleton :
    Unsettled (outcomes ++ [outcome]) ↔ Unsettled outcomes ∧ ¬ outcome.Settles outcomes := by
  constructor
  · intro h
    refine ⟨?_, h outcomes outcome [] rfl⟩
    intro earlier other later he
    exact h earlier other (later ++ [outcome]) (by simp [he])
  · intro h earlier other later he
    obtain ⟨before, last⟩ := h
    rcases List.eq_nil_or_concat later with rfl | ⟨later, final, rfl⟩
    · obtain ⟨rfl, hl⟩ := List.append_inj' he rfl
      obtain rfl : outcome = other := by simpa using hl
      exact last
    · rw [List.concat_eq_append, ← List.cons_append, ← List.append_assoc] at he
      obtain ⟨rfl, -⟩ := List.append_inj' he rfl
      exact before earlier other later rfl

theorem FirstFurthest.offset_le (h : FirstFurthest outcomes message stopped) :
    ∀ other ∈ outcomes, Reader.offset other.remaining ≤ Reader.offset stopped := by
  obtain ⟨earlier, later, rfl, before, after⟩ := h
  intro other hm
  rcases List.mem_append.mp hm with hm | hm
  · exact Nat.le_of_lt (before other hm)
  · rcases List.mem_cons.mp hm with rfl | hm
    · exact Nat.le_refl _
    · exact after other hm

theorem FirstFurthest.mem (h : FirstFurthest outcomes message stopped) :
    .failure message stopped ∈ outcomes := by
  obtain ⟨earlier, later, rfl, -, -⟩ := h
  simp

/-- An outcome that settles the search is what the comparison with the failures before it gives. -/
theorem FirstFurthest.furthest_of_settles (h : FirstFurthest outcomes message stopped)
    (settles : outcome.Settles outcomes) : outcome.furthest message stopped = outcome := by
  cases outcome with
  | success value r => exact furthest_success message stopped value r
  | failure other r => exact settles.elim
  | error other r =>
    have further : Reader.offset stopped < Reader.offset r := settles _ h.mem
    rw [furthest_error, if_pos further]

/-- The kept failure stays the first of the furthest ones when one more outcome is compared. -/
theorem FirstFurthest.snoc (h : FirstFurthest outcomes message stopped)
    (unsettled : ¬ outcome.Settles outcomes) :
    ∃ message' stopped', outcome.furthest message stopped = .failure message' stopped' ∧
      FirstFurthest (outcomes ++ [outcome]) message' stopped' := by
  have bound := h.offset_le
  have keep (le : Reader.offset outcome.remaining ≤ Reader.offset stopped) :
      FirstFurthest (outcomes ++ [outcome]) message stopped := by
    obtain ⟨earlier, later, rfl, before, after⟩ := h
    refine ⟨earlier, later ++ [outcome], by simp, before, ?_⟩
    intro other hm
    rcases List.mem_append.mp hm with hm | hm
    · exact after other hm
    · obtain rfl : other = outcome := by simpa using hm
      exact le
  cases outcome with
  | success value r => exact absurd trivial unsettled
  | failure other r =>
    rw [furthest_failure]
    by_cases further : Reader.offset stopped < Reader.offset r
    · rw [if_pos further]
      refine ⟨other, r, rfl, outcomes, [], rfl, ?_, by simp⟩
      intro earlier hm
      exact Nat.lt_of_le_of_lt (bound earlier hm) further
    · rw [if_neg further]
      exact ⟨message, stopped, rfl, keep (Nat.le_of_not_lt further)⟩
  | error other r =>
    have hidden : ¬ Reader.offset stopped < Reader.offset r := by
      intro further
      apply unsettled
      intro earlier hm
      exact Nat.lt_of_le_of_lt (bound earlier hm) further
    rw [furthest_error, if_neg hidden]
    exact ⟨message, stopped, rfl, keep (Nat.le_of_not_lt hidden)⟩

/-- Where nothing ended the search there is a furthest failure: an error that is not covered by a
failure would have ended it. -/
theorem Unsettled.firstFurthest (h : Unsettled outcomes) (ne : outcomes ≠ []) :
    ∃ message stopped, FirstFurthest outcomes message stopped := by
  induction outcomes using List.reverseRecOn with
  | nil => exact absurd rfl ne
  | append_singleton outcomes outcome ih =>
    obtain ⟨before, last⟩ := unsettled_append_singleton.mp h
    rcases List.eq_nil_or_concat outcomes with rfl | ⟨_, _, rfl⟩
    · cases outcome with
      | success value r => exact absurd trivial last
      | failure message stopped => exact ⟨message, stopped, [], [], rfl, by simp, by simp⟩
      | error message r => exact absurd (by simp [Settles]) last
    · obtain ⟨message, stopped, furthest⟩ := ih before (by simp)
      obtain ⟨message', stopped', -, furthest'⟩ := furthest.snoc last
      exact ⟨message', stopped', furthest'⟩

theorem FirstFurthest.unique {message' : String} {stopped' : ρ}
    (h : FirstFurthest outcomes message stopped) (h' : FirstFurthest outcomes message' stopped') :
    message = message' ∧ stopped = stopped' := by
  have le := h.offset_le _ h'.mem
  have ge := h'.offset_le _ h.mem
  obtain ⟨earlier, later, rfl, before, -⟩ := h
  obtain ⟨earlier', later', he, before', -⟩ := h'
  rcases List.append_eq_append_iff.mp he with ⟨between, hb, hl⟩ | ⟨between, hb, hl⟩
  · cases between with
    | nil => exact failure.inj (List.cons.inj hl).1
    | cons head between =>
      obtain ⟨rfl, -⟩ := List.cons.inj hl
      have := before' (.failure message stopped) (by simp [hb])
      simp only [remaining] at this ge le
      omega
  · cases between with
    | nil => exact failure.inj (List.cons.inj hl).1.symm
    | cons head between =>
      obtain ⟨rfl, -⟩ := List.cons.inj hl
      have := before (.failure message' stopped') (by simp [hb])
      simp only [remaining] at this ge le
      omega

/-- The answer of a search with these outcomes: the last of them where it ended the search, or else,
where nothing is left to try, the first of the furthest failures. -/
def Answers (outcomes : List (Outcome ρ Value)) (exhausted : Prop) (answer : Outcome ρ Value) :
    Prop :=
  (∃ earlier, outcomes = earlier ++ [answer] ∧ Unsettled earlier ∧ answer.Settles earlier) ∨
    exhausted ∧ Unsettled outcomes ∧ ∃ message stopped,
      answer = .failure message stopped ∧ FirstFurthest outcomes message stopped

theorem answers_failure_iff {exhausted : Prop} :
    Answers outcomes exhausted (.failure message stopped) ↔
      exhausted ∧ Unsettled outcomes ∧ FirstFurthest outcomes message stopped := by
  constructor
  · intro h
    rcases h with ⟨earlier, -, -, settles⟩ | ⟨all, unsettled, message', stopped', he, furthest⟩
    · exact settles.elim
    · obtain ⟨rfl, rfl⟩ := failure.inj he
      exact ⟨all, unsettled, furthest⟩
  · intro h
    obtain ⟨all, unsettled, furthest⟩ := h
    exact .inr ⟨all, unsettled, message, stopped, rfl, furthest⟩

theorem answers_of_ne_failure {answer : Outcome ρ Value} {exhausted exhausted' : Prop}
    (settled : ∀ message stopped, answer ≠ .failure message stopped) :
    Answers outcomes exhausted answer ↔ Answers outcomes exhausted' answer := by
  have never : ¬ ∃ message stopped, answer = .failure message stopped ∧
      FirstFurthest outcomes message stopped := by
    intro h
    obtain ⟨message, stopped, he, -⟩ := h
    exact settled message stopped he
  simp only [Answers, never, and_false, or_false]

theorem answers_singleton {exhausted : Prop} {answer : Outcome ρ Value} (all : exhausted) :
    Answers [outcome] exhausted answer ↔ answer = outcome := by
  constructor
  · intro h
    rcases h with ⟨earlier, he, -⟩ | ⟨-, -, message, stopped, rfl, furthest⟩
    · have last : [] ++ [outcome] = earlier ++ [answer] := he
      obtain ⟨-, hl⟩ := List.append_inj' last rfl
      exact (List.singleton_injective hl).symm
    · simpa using furthest.mem
  · intro he
    subst he
    have none : Unsettled ([] : List (Outcome ρ Value)) := by simp [Unsettled]
    cases answer with
    | success value r => exact .inl ⟨[], rfl, none, trivial⟩
    | failure message stopped =>
      have unsettled : Unsettled ([] ++ [failure message stopped]) :=
        unsettled_append_singleton.mpr ⟨none, id⟩
      exact .inr ⟨all, unsettled, message, stopped, rfl, [], [], rfl, by simp, by simp⟩
    | error message r => exact .inl ⟨[], rfl, none, by simp [Settles]⟩

/-- With one more outcome the answer is what its comparison with the kept failure gives. -/
theorem answers_append_singleton {exhausted : Prop} {answer : Outcome ρ Value} (all : exhausted)
    (ne : outcomes ≠ []) :
    Answers (outcomes ++ [outcome]) exhausted answer ↔
      Unsettled outcomes ∧ ∃ message stopped, FirstFurthest outcomes message stopped ∧
        answer = outcome.furthest message stopped := by
  constructor
  · intro h
    rcases h with ⟨earlier, he, unsettled, settles⟩ | ⟨-, unsettled, _, _, rfl, last⟩
    · obtain ⟨rfl, hl⟩ := List.append_inj' he rfl
      obtain rfl := List.singleton_injective hl
      obtain ⟨message, stopped, furthest⟩ := unsettled.firstFurthest ne
      exact ⟨unsettled, message, stopped, furthest, (furthest.furthest_of_settles settles).symm⟩
    · obtain ⟨before, open'⟩ := unsettled_append_singleton.mp unsettled
      obtain ⟨message, stopped, furthest⟩ := before.firstFurthest ne
      obtain ⟨_, _, he, compared⟩ := furthest.snoc open'
      obtain ⟨rfl, rfl⟩ := last.unique compared
      exact ⟨before, message, stopped, furthest, he.symm⟩
  · intro h
    obtain ⟨unsettled, message, stopped, furthest, rfl⟩ := h
    by_cases settles : outcome.Settles outcomes
    · rw [furthest.furthest_of_settles settles]
      exact .inl ⟨outcomes, rfl, unsettled, settles⟩
    · obtain ⟨_, _, he, compared⟩ := furthest.snoc settles
      have unsettled' := unsettled_append_singleton.mpr ⟨unsettled, settles⟩
      exact .inr ⟨all, unsettled', _, _, he, compared⟩

end Outcome

end SafeDescent
