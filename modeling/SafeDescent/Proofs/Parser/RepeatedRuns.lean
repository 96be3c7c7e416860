import SafeDescent.Parser.Text
import SafeDescent.Proofs.Parser.Rounds
import SafeDescent.Reader.Text

namespace SafeDescent

open Round

/-- What a repetition does, exactly. Its parser succeeds some times in a row, where no round starts
after as many rounds as there may be, nor after a round that stalled when there were enough. Then
the repetition ends, without another round if none may start. Otherwise one more round does not
succeed: its failure ends the repetition where that round started if there were enough rounds, and
is the outcome if there were not; its error is the outcome. So a success has at least as many values
as there have to be and at most as many as there may be, and there is no failure if none are needed.
An upper bound below the lower one is raised to it. -/
theorem repeated_runs_iff {ρ ε : Type} [Reader ρ ε] [Element ε] [DecidableEq ε]
    (library : Library ε) (body : Parser ε) (min : Nat) (max : Option Nat) (input : ρ)
    (store : Store) (starts : List (Start ρ ε)) (outcome : Outcome ρ Value) (last : Store) :
    let limit := max.map (Nat.max · min)
    ((Parser.repeated min max body).Runs library input store starts outcome last ↔
      ∃ runs rounds r middle rest, Parser.Rounds library body input store runs rounds r middle ∧
        Due min limit [] rounds ∧
        starts = ⟨.repeated min max body, input⟩ :: (runs.flatten ++ rest) ∧
        Parser.EndsRounds library body min limit rounds r middle rest outcome last) ∧
    ((Parser.repeated min max body).Runs library input store starts outcome last →
      (∀ value r, outcome = .success value r → ∃ items, value = .list items ∧ min ≤ items.length ∧
        ∀ most, limit = some most → items.length ≤ most) ∧
      (min = 0 → ∀ message r, outcome ≠ .failure message r)) := by
  intro limit
  have exact : (Parser.repeated min max body).Runs library input store starts outcome last ↔ _ :=
    Parser.runs_many_iff
  refine ⟨exact, fun runs => ?_⟩
  obtain ⟨-, rounds, r, middle, rest, -, due, -, ends⟩ := exact.mp runs
  refine ⟨?_, ?_⟩
  · intro value stopped he
    subst he
    obtain ⟨rfl, enough⟩ := ends.success_length (Bounds.between min max).min_le
    have within (most : Nat) (bound : limit = some most) : rounds.length ≤ most := by
      simpa using due.length_le bound (Nat.zero_le most)
    exact ⟨rounds.map Round.value, rfl, by rwa [List.length_map], by rwa [List.length_map]⟩
  · intro none message stopped
    subst none
    exact ends.ne_failure message stopped

/-- Two or three letters, on a text where a third one is missing. -/
theorem repeated_runs_iff_letters :
    let library : Library Char := fun _ => none
    let letters : Parser Char := .repeated 2 (some 3) (.character 'a')
    let start := TextReader.ofString "aab"
    ∃ starts last, letters.Runs library start {} starts
        (.success (.list [.char 'a', .char 'a']) (Reader.advance 2 start)) last ∧
      ∃ runs rounds r middle rest,
        Parser.Rounds library (.character 'a') start {} runs rounds r middle ∧
        Due 2 (some 3) [] rounds ∧ starts = ⟨letters, start⟩ :: (runs.flatten ++ rest) ∧
        Parser.EndsRounds library (.character 'a') 2 (some 3) rounds r middle rest
          (.success (.list [.char 'a', .char 'a']) (Reader.advance 2 start)) last := by
  intro library letters start
  have ran : ∃ last, ∃ fuel, ({} : Store).run library fuel letters start =
      some (.success (.list [.char 'a', .char 'a']) (Reader.advance 2 start), last) :=
    ⟨_, 20, rfl⟩
  obtain ⟨last, ran⟩ := ran
  obtain ⟨starts, runs⟩ := Store.run_iff_runs.mp ran
  have exact := repeated_runs_iff library (.character 'a') 2 (some 3) start {} starts
    (.success (.list [.char 'a', .char 'a']) (Reader.advance 2 start)) last
  exact ⟨starts, last, runs, exact.1.mp runs⟩

end SafeDescent
