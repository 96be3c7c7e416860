import SafeDescent.Proofs.Parser.PairedFrames
import SafeDescent.Proofs.Parser.RelocatedParsers
import SafeDescent.Proofs.Parser.YieldRules

namespace SafeDescent

variable {ρ ε : Type}

/-- The definitions with the given names are portable. -/
def Library.Portable (names : String → Prop) (library : Library ε) : Prop :=
  ∀ name body, names name → library name = some body → body.Portable names

/-- One parser at two places, about to start at one position. -/
def Start.Relocated (names : String → Prop) (start start' : Start ρ ε) : Prop :=
  Parser.Relocated names start.parser start'.parser ∧ start.input = start'.input

variable {names : String → Prop}

variable [Reader ρ ε]

/-- One parser at two places, at the same position. -/
def Pairing.relocated (names : String → Prop) : Pairing ρ ρ ε :=
  .sameOutcomes (Parser.Relocated names) (Start.Relocated names) (fun h => ⟨h, rfl⟩)
    fun ho hs => .many (.sequence hs ho)

variable [Element ε] [DecidableEq ε] {library : Library ε}

/-- A parser goes through the same steps at its two places. -/
theorem parsing_simulates_relocated (hl : library.Portable names) :
    (parsing library).Simulates (parsing library) (Start.Relocated names : Start ρ ε → Start ρ ε → Prop)
      (Frame.Paired (.relocated names)) Eq (fun _ _ => True) where
  call := by
    rintro ⟨parser, input⟩ ⟨parser', _⟩ store store' ⟨relocated, rfl⟩ -
    refine ⟨?_, trivial⟩
    cases relocated with
    | primitive p => exact .done rfl
    | sequence ha hb => exact .flatMap (.more ⟨ha, rfl⟩) (.following hb)
    | choice ha hb => exact .flatMap (.more ⟨ha, rfl⟩) (.otherwise hb rfl)
    | many ha => exact (Pairing.relocated names).run_round ha _ #[] rfl
    | chain ha hb =>
      simp only [parsing, Start.call]
      split
      · exact .done rfl
      · exact .flatMap (.more ⟨ha, rfl⟩) (.opening ha hb rfl)
    | adjust ha => exact .flatMap (.more ⟨ha, rfl⟩) (.adjusting trivial rfl)
    | flatMap ha hn => exact .flatMap (.more ⟨ha, rfl⟩) (.choosing fun v => (hn v).place (.inl rfl))
    | select ha hb => exact .flatMap (.more ⟨ha, rfl⟩) (.selecting hb)
    | tap ha => exact .flatMap (.more ⟨ha, rfl⟩) (.leaving _)
    | deferred ha => exact .more ⟨ha, rfl⟩
    | fixpoint hk ha => exact .more ⟨ha.unfold hk, rfl⟩
    | @copied site site' name scope scope' free hs =>
      simp only [parsing, Start.call]
      cases defined : library name with
      | none => exact .done rfl
      | some body =>
        -- Where only one of the two copies is held, the definition makes nothing to be held.
        have free' : site.kept = site'.kept ∨ (body.substitute scope).Portable names :=
          free.imp_right fun portable => (hl name body portable.1 defined).substitute portable.2
        exact .more ⟨(Parser.Relocated.fill body hs).place free' _ _, rfl⟩
    | reference target => exact .done rfl
    | handle hk ha =>
      simp only [parsing, Start.call, hk]
      split
      · exact .more ⟨.fixpoint hk ha, rfl⟩
      · exact .done rfl
    | shared ha => exact .more ⟨ha, rfl⟩
  resume := by
    intro frame frame' outcome outcome' store store' relocated same _
    exact ⟨(Pairing.relocated names).resume relocated same store store', trivial⟩

namespace Parser

variable {parser parser' : Parser ε} {input : ρ} {store last : Store} {starts : List (Start ρ ε)}
  {outcome : Outcome ρ Value}

/-- A parser runs alike at its two places: it starts the same parsers in the same order, and ends in
the same way. -/
theorem Relocated.runs (h : Relocated names parser parser') (hl : library.Portable names)
    (runs : parser.Runs library input store starts outcome last) (store' : Store) :
    ∃ starts' last', parser'.Runs library input store' starts' outcome last' ∧
      List.Forall₂ (Start.Relocated names) starts starts' := by
  have start : Start.Relocated names ⟨parser, input⟩ ⟨parser', input⟩ := ⟨h, rfl⟩
  obtain ⟨starts', _, last', evaluates, rfl, -, same⟩ :=
    (parsing_simulates_relocated hl).evaluates (.more start) trivial (runs_iff_evaluates.mp runs)
  exact ⟨starts', last', runs_iff_evaluates.mpr evaluates, same⟩

theorem Relocated.yields (h : Relocated names parser parser') (hl : library.Portable names)
    (yields : parser.Yields library input outcome) : parser'.Yields library input outcome := by
  obtain ⟨starts, last, runs⟩ := yields
  obtain ⟨starts', last', runs', -⟩ := h.runs hl runs {}
  exact ⟨starts', last', runs'⟩

end Parser

end SafeDescent
