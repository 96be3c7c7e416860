import Mathlib.Logic.Relation
import SafeDescent.Parser.Text
import SafeDescent.Proofs.Parser.UnfoldedRuns
import SafeDescent.Reader.Text

namespace SafeDescent

variable {ρ ε : Type} [Reader ρ ε] [Element ε] [DecidableEq ε]

/-- A parser that unfolds another one answers as that one does. -/
theorem Parser.Unfolds.equivalent {parser parser' : Parser ε} (library : Library ε)
    (h : Parser.Unfolds .reference parser parser') : parser.Equivalent library parser' := by
  refine .of_runs fun ρ _ input store store' outcome => ?_
  have trails := parsing_trails (ρ := ρ) library
  have start : Start.Unfolds (ρ := ρ) ⟨parser, input⟩ ⟨parser', input⟩ := ⟨rfl, h⟩
  simp only [Parser.runs_iff_evaluates]
  constructor
  · rintro ⟨starts, last, evaluates⟩
    obtain ⟨starts', _, last', evaluates', rfl⟩ :=
      trails.evaluates (.more (trails.call start)) evaluates store'
    exact ⟨starts', last', evaluates'⟩
  · rintro ⟨starts', last', evaluates'⟩
    obtain ⟨starts, _, last, evaluates, rfl⟩ :=
      trails.evaluates_late (.more start) evaluates' store
    exact ⟨starts, last, evaluates⟩

/-- A recursive definition that is kept answers as its body does with the definition itself in the
place of its name. In every parser the handle of the definition may give way to it. So answers do
not change where definitions are unfolded or folded, as often as it may be, at any depth, and also
inside other definitions of the same name. -/
theorem Parser.fixpoint_equivalent (library : Library ε) :
    (∀ (site : Site) (name : String) (body : Parser ε), site.kept = true →
      (Parser.fixpoint site name body).Equivalent library
        (body.substitute (only (.binder name) (.shared (.fixpoint site name body)))) ∧
      ∀ (context : Parser ε) (target : Reference),
        (context.substitute (only target (.handle site name body))).Equivalent library
          (context.substitute (only target (.shared (.fixpoint site name body))))) ∧
    ∀ parser parser' : Parser ε, Relation.EqvGen (Unfolds .reference) parser parser' →
      parser.Equivalent library parser' := by
  refine ⟨?_, ?_⟩
  · intro site name body kept
    refine ⟨(unfolds_opened kept name body).equivalent library, fun context target => ?_⟩
    have filled := follows_substitute context (follows_only kept name body target)
    exact (filled .reference).1.equivalent library
  · intro parser parser' h
    induction h with
    | rel parser parser' unfolds => exact unfolds.equivalent library
    | refl parser => exact (unfolds_self _ parser).equivalent library
    | symm parser parser' _ ih => exact ih.symm
    | trans first second third _ _ ih ih' => exact ih.trans ih'

namespace Parser

/-- A letter behind opening brackets. -/
def bracketed : Parser Char :=
  .fixpoint ⟨[0, 0], true, none⟩ "r"
    (.choice (.character 'x') (.seq (.character '[') (.reference (.binder "r"))))

/-- A list of such letters. The name of the inner definition hides that of the outer one. -/
def bracketedList : Parser Char :=
  .fixpoint ⟨[0], true, none⟩ "r" (.optional (.seq bracketed (.reference (.binder "r"))))

/-- The same with each name unfolded once, in the inner and in the outer definition. -/
def bracketedListUnfolded : Parser Char :=
  .fixpoint ⟨[0], true, none⟩ "r" (.optional (.seq
    (.fixpoint ⟨[0, 0], true, none⟩ "r"
      (.choice (.character 'x') (.seq (.character '[') (.shared bracketed))))
    (.shared bracketedList)))

theorem bracketedList_unfolds : Unfolds .reference bracketedList bracketedListUnfolded := by
  have inner := unfolds_self .reference bracketed
  have outer := unfolds_self .reference bracketedList
  refine .fixpoint rfl (.adjust (.sequence (.fixpoint rfl ?_) (.named rfl rfl outer)))
  exact .choice (.primitive _) (.sequence (.primitive _) (.named rfl rfl inner))

end Parser

/-- Definitions of one name, one inside the other, and a text that leads through both. -/
theorem fixpoint_equivalent_bracketedList :
    (⟨[0], true, none⟩ : Site).kept = true ∧
    Parser.bracketedList.Equivalent (fun _ => none)
      (.optional (.seq Parser.bracketed (.shared Parser.bracketedList))) ∧
    Relation.EqvGen (Parser.Unfolds .reference) Parser.bracketedList
      Parser.bracketedListUnfolded ∧
    Parser.bracketedList.Equivalent (fun _ => none) Parser.bracketedListUnfolded ∧
    ∃ value r, ({} : Store).Answers (fun _ => none) .whole Parser.bracketedList
        (TextReader.ofString "[[xx") (.success value r) ∧
      ({} : Store).Answers (fun _ => none) .whole Parser.bracketedListUnfolded
        (TextReader.ofString "[[xx") (.success value r) := by
  obtain ⟨kept, unfolded⟩ := Parser.fixpoint_equivalent (fun _ => none : Library Char)
  obtain ⟨opened, -⟩ := kept ⟨[0], true, none⟩ "r"
    (.optional (.seq Parser.bracketed (.reference (.binder "r")))) rfl
  have unfolds := Relation.EqvGen.rel _ _ Parser.bracketedList_unfolds
  have alike := unfolded _ _ unfolds
  obtain ⟨value, r, answers⟩ : ∃ value r, ({} : Store).Answers (fun _ => none) .whole
      Parser.bracketedList (TextReader.ofString "[[xx") (.success value r) :=
    ⟨_, _, 80, _, _, rfl, rfl⟩
  exact ⟨rfl, opened, unfolds, alike, value, r, answers,
    (alike TextReader _ .whole {} {} _).mp answers⟩

end SafeDescent
