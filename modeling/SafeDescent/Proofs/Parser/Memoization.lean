import SafeDescent.Parser.Text
import SafeDescent.Proofs.Parser.SuccessiveParses
import SafeDescent.Reader.Text

namespace SafeDescent

/-- What is built is remembered, and nothing of it shows in an outcome. After any parses with a new
parser, the next one takes as many turns and ends as it would with another copy. At each moment of
it the definitions are built that were asked for before, in this parse or an earlier one, and a
start builds a definition exactly when it is the first to ask for it. Each path stands for one
definition, and there are as many records of buildings as there are built definitions. -/
theorem parses_build_once {ρ ε : Type} [Reader ρ ε] [Element ε] [DecidableEq ε]
    {library : Library ε} {parser : Parser ε} {tasks : List (Extent × ρ)}
    {reports : List (Report ρ)} {starts : List (Start ρ ε)} {last : Store}
    (parses : (({} : Store).install parser).1.Parses library (({} : Store).install parser).2 tasks
      reports starts last) :
    (∀ (other : Store) fuel extent (input : ρ),
      (last.parse library fuel extent (({} : Store).install parser).1 input).map (·.1.outcome) =
        ((other.install parser).2.parse library fuel extent (other.install parser).1 input).map
          (·.1.outcome)) ∧
    (∀ input before place part now,
      (({} : Store).install parser).1.Applies library input last.silence before place part now →
        ∀ path,
          (now.isBuilt path = true ↔ ∃ earlier ∈ starts ++ before, earlier.Uses library path) ∧
          (part.Builds library now path ↔ part.Uses library path ∧
            ∀ earlier ∈ starts ++ before, ¬ earlier.Uses library path)) ∧
    (∀ path, last.isBuilt path = true ↔ ∃ start ∈ starts, start.Uses library path) ∧
    (library.Plain → parser.Plain → ∀ start ∈ starts, ∀ start' ∈ starts, ∀ path,
      start.Uses library path → start'.Uses library path → start.parser = start'.parser) ∧
    ∃ paths : List (List Nat), paths.Nodup ∧ (∀ path, path ∈ paths ↔ last.isBuilt path = true) ∧
      (reports.map Report.buildings).sum = paths.length := by
  have fresh (path : List Nat) : ¬ (({} : Store).install parser).2.isBuilt path = true := by
    simp [Store.install, Store.fresh, Store.isBuilt]
  have built (path : List Nat) :
      last.isBuilt path = true ↔ ∃ start ∈ starts, start.Uses library path := by
    rw [parses.built path]
    exact or_iff_right (fresh path)
  refine ⟨?_, ?_, built, ?_, ?_⟩
  · intro other fuel extent input
    exact Store.outcome_parse_copy library parser {} other last (other.install parser).2 fuel extent
      input
  · intro input before place part now applies path
    have atFirst (path : List Nat) : last.silence.isBuilt path = true ↔
        last.isBuilt path = true ∨ ∃ start ∈ ([] : List (Start ρ ε)), start.Uses library path := by
      simp [Store.isBuilt, Store.silence]
    have sofar : now.isBuilt path = true ↔
        ∃ earlier ∈ starts ++ before, earlier.Uses library path := by
      rw [(parsing_tracks_built library last).visits [] atFirst applies path, built path]
      simp only [List.nil_append, List.mem_append, or_and_right, exists_or]
    refine ⟨sofar, ?_⟩
    rw [part.builds_iff, sofar]
    simp only [not_exists, not_and]
  · intro hl hp start hs start' hs' path uses uses'
    exact parses.same_definition hl hp hs hs' uses uses'
  · refine ⟨last.built.toList, ?_, ?_, ?_⟩
    · exact last.built.distinct_toList.imp fun differ same => by simp [same] at differ
    · intro path
      simp [Store.isBuilt]
    · have counted := parses.buildings
      have nothing : (({} : Store).install parser).2.built.size = 0 := by
        simp [Store.install, Store.fresh]
      rw [Std.HashSet.length_toList, counted, nothing, Nat.zero_add]

/-- Three parses with a list in brackets, of which the first one stops before the definition that
refers to itself. -/
theorem parses_build_once_brackets :
    let library : Library Char := fun _ => none
    let parser : Parser Char := .seq (.lazy (.character '[')) (.recursive "R"
      (.choice (.seq (.lazy .digit) (.reference (.binder "R"))) (.character ']')))
    let inputs := ["1]", "[12]", "[3"].map TextReader.ofString
    ∃ reports starts last, (({} : Store).install parser).1.Parses library
      (({} : Store).install parser).2 (inputs.map (Extent.whole, ·)) reports starts last ∧
      (∀ path, last.isBuilt path = true ↔ ∃ start ∈ starts, start.Uses library path) ∧
      (∀ start ∈ starts, ∀ start' ∈ starts, ∀ path,
        start.Uses library path → start'.Uses library path → start.parser = start'.parser) := by
  intro library parser inputs
  have ends : ((({} : Store).install parser).2.parseEach library 60 .whole
      (({} : Store).install parser).1 inputs).isSome = true := by rfl
  obtain ⟨⟨reports, last⟩, parsed⟩ := Option.isSome_iff_exists.mp ends
  obtain ⟨starts, parses⟩ := Store.parseEach_parses parsed
  have once := parses_build_once parses
  have plainLibrary : library.Plain := nofun
  have plain : parser.Plain := ⟨⟨rfl, trivial⟩, rfl, ⟨⟨rfl, trivial⟩, trivial⟩, trivial⟩
  exact ⟨reports, starts, last, parses, once.2.2.1, once.2.2.2.1 plainLibrary plain⟩

end SafeDescent
