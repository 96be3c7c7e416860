import SafeDescent.Parser.Text
import SafeDescent.Proofs.Parser.Faults
import SafeDescent.Reader.Text

namespace SafeDescent

variable {ρ ε : Type}

/-- Adjustments that leave a message at the position that it is about. -/
def Adjustment.Candid : Adjustment → Prop
  | .negate | .guard | .failureMessage _ | .errorMessage _ => False
  | _ => True

/-- Primitive parsers that stop only at an element that does not fit. -/
def Primitive.Candid : Primitive ε → Prop
  | .fail _ | .fatal _ => False
  | _ => True

/-- A parser all of whose messages are about elements. -/
def Parser.Candid (parser : Parser ε) : Prop := parser.MadeOf Primitive.Candid Adjustment.Candid

def Library.Candid (library : Library ε) : Prop := library.MadeOf Primitive.Candid Adjustment.Candid

variable [Element ε]

/-- The message names an element as what was found. -/
def NamesFound (message : String) (x : ε) : Prop :=
  ∃ before after, message = before ++ ", found " ++ Element.shown x ++ after ∨
    message = before ++ ", found '" ++ Element.plain x ++ "'" ++ after

/-- The message says that the input ended. -/
def NamesEnd (message : String) : Prop :=
  message = "unexpected end of input" ∨
    ∃ before after, message = before ++ ", but reached end of input" ++ after

variable [Reader ρ ε]

theorem Mismatch.Fits.namesFound {reason : Mismatch ε} {r : ρ} {x : ε} (fits : reason.Fits r)
    (here : Reader.first r = some x) : NamesFound reason.message x := by
  have found : reason.found = some x := fits.1.trans here
  cases reason with
  | nothingAhead => simp [Mismatch.found] at found
  | missing expected other =>
    obtain rfl : other = some x := found
    have text : (Mismatch.missing expected (some x)).message =
        "expected " ++ expected ++ ", found " ++ Element.shown x ++ "" := by
      rw [String.append_empty]
      rfl
    exact ⟨_, _, .inl text⟩
  | missingIn literal expected other =>
    obtain rfl : other = some x := found
    have text : (Mismatch.missingIn literal expected (some x)).message =
        "expected '" ++ Element.plain expected ++ ("'" ++ ", found '") ++ Element.plain x
          ++ ("'" ++ " while matching '") ++ Element.joined literal ++ "'" := by rfl
    rw [text]
    refine ⟨"expected '" ++ Element.plain expected ++ "'",
      " while matching '" ++ Element.joined literal ++ "'", .inr ?_⟩
    simp only [String.append_assoc]
  | notAtEnd other =>
    obtain rfl : other = some x := found
    have text : "expected end of input, found " = "expected end of input" ++ ", found " := by rfl
    refine ⟨"expected end of input", "", .inl ?_⟩
    rw [String.append_empty, ← text]
    rfl

theorem Mismatch.Fits.namesEnd {reason : Mismatch ε} {r : ρ} (fits : reason.Fits r)
    (ended : Reader.first r = none) : NamesEnd reason.message := by
  have found : reason.found = none := fits.1.trans ended
  cases reason with
  | nothingAhead => exact .inl rfl
  | missing expected other =>
    obtain rfl : other = none := found
    have text : (Mismatch.missing expected (none : Option ε)).message =
        "expected " ++ expected ++ ", but reached end of input" ++ "" := by
      rw [String.append_empty]
      rfl
    exact .inr ⟨_, _, text⟩
  | missingIn literal expected other =>
    obtain rfl : other = none := found
    have text : (Mismatch.missingIn literal expected none).message =
        "expected '" ++ Element.plain expected
          ++ ("'" ++ ", but reached end of input" ++ " while matching '")
          ++ Element.joined literal ++ "'" := by rfl
    rw [text]
    refine .inr ⟨"expected '" ++ Element.plain expected ++ "'",
      " while matching '" ++ Element.joined literal ++ "'", ?_⟩
    simp only [String.append_assoc]
  | notAtEnd other =>
    obtain rfl : other = none := found
    exact (fits.2 rfl).elim

/-- The message is that of the check for the end of the input, where the input does not end. -/
def EndCheck (message : String) (r : ρ) : Prop :=
  Reader.atEnd r = false ∧ message = (Mismatch.notAtEnd (Reader.first r)).message

variable {blamed : String → ρ → Prop}

theorem Outcome.requireEnd_faulty {outcome : Outcome ρ Value}
    (check : ∀ message r, EndCheck message r → blamed message r)
    (h : outcome.Faulty blamed blamed) : outcome.requireEnd.Faulty blamed blamed := by
  cases outcome with
  | success value r =>
    simp only [Outcome.requireEnd]
    split
    · trivial
    next more => exact check _ r ⟨by simpa using more, rfl⟩
  | failure message r => exact h
  | error message r => exact h

theorem Adjustment.Candid.faithful {adjustment : Adjustment} (h : adjustment.Candid)
    (check : adjustment = .phrase → ∀ message r, EndCheck message r → blamed message r) :
    adjustment.Faithful blamed blamed := by
  intro start outcome faulty
  cases adjustment with
  | map f => exact faulty.map f
  | negate | guard | failureMessage | errorMessage => exact h.elim
  | phrase => exact Outcome.requireEnd_faulty (check rfl) faulty
  | optional | commit | spanned =>
    cases outcome <;> first | exact faulty | trivial

variable [DecidableEq ε]

theorem Primitive.Candid.faulty {p : Primitive ε} (h : p.Candid) {input : ρ}
    (own : ∀ message r, p.run input = .failure message r → blamed message r) :
    (p.run input).Faulty blamed blamed := by
  rcases p.run_cases input with
    ⟨value, next, run⟩ | ⟨message, rfl, -⟩ | ⟨message, rfl, -⟩ | ⟨reason, stopped, run, -⟩
  · rw [run]
    trivial
  · exact h.elim
  · exact h.elim
  · have cause := own _ _ run
    rw [run]
    exact cause

theorem Primitive.Candid.fits {p : Primitive ε} (h : p.Candid) {input r : ρ} {message : String}
    (stopped : p.run input = .failure message r) :
    ∃ reason : Mismatch ε, message = reason.message ∧ reason.Fits r := by
  rcases p.run_cases input with
    ⟨value, next, run⟩ | ⟨other, rfl, -⟩ | ⟨other, rfl, -⟩ | ⟨reason, position, run, fits⟩
  · rw [run] at stopped
    cases stopped
  · exact h.elim
  · exact h.elim
  · rw [run] at stopped
    cases stopped
    exact ⟨reason, rfl, fits⟩

/-- What can be blamed for a message at a position, given what a parse started and how much of the
input it had to read: a primitive parser that itself reports both, or a check for the end. -/
inductive Blamed (starts : List (Start ρ ε)) (extent : Extent) (message : String) (r : ρ) : Prop
  | primitive {start : Start ρ ε} {p : Primitive ε} : start ∈ starts →
      start.parser = .primitive p → p.Candid → p.run start.input = .failure message r →
        Blamed starts extent message r
  | phrase {start : Start ρ ε} {body : Parser ε} : start ∈ starts →
      start.parser = .adjust .phrase body → EndCheck message r → Blamed starts extent message r
  | whole : extent = .whole → EndCheck message r → Blamed starts extent message r

variable {library : Library ε} {parser : Parser ε} {input r : ρ} {store last : Store}
  {starts : List (Start ρ ε)} {outcome : Outcome ρ Value} {extent : Extent} {message : String}

theorem Blamed.fits (h : Blamed starts extent message r) :
    ∃ reason : Mismatch ε, message = reason.message ∧ reason.Fits r := by
  have atEnd (check : EndCheck message r) :
      ∃ reason : Mismatch ε, message = reason.message ∧ reason.Fits r :=
    ⟨_, check.2, Mismatch.fits_notAtEnd (by simp [check.1])⟩
  cases h with
  | primitive _ _ candid stopped => exact candid.fits stopped
  | phrase _ _ check => exact atEnd check
  | whole _ check => exact atEnd check

theorem Start.candid_faulty {start : Start ρ ε} (started : start ∈ starts) :
    start.Faulty Primitive.Candid Adjustment.Candid (Blamed starts extent)
      (Blamed starts extent) where
  primitive p same candid := candid.faulty fun _ _ stopped => .primitive started same candid stopped
  adjust adjustment body same candid := candid.faithful fun phrase _ _ check => by
    rw [phrase] at same
    exact .phrase started same check

/-- A candid parser reports what one of its own checks reports. -/
theorem Parser.Candid.finish_faulty (hl : library.Candid) (hp : parser.Candid)
    (runs : parser.Runs library input store starts outcome last) (sound : last.Sound) :
    (extent.finish outcome).Faulty (Blamed starts extent) (Blamed starts extent) := by
  have faulty : outcome.Faulty (Blamed starts extent) (Blamed starts extent) :=
    runs.faulty hl hp (fun _ started => Start.candid_faulty started) sound
  cases extent with
  | part => exact faulty
  | whole => exact Outcome.requireEnd_faulty (fun _ _ check => .whole rfl check) faulty

/-- A parse that does not succeed reports what one of its primitive parsers reports, or a check for
the end of the input, with the same position. So the message is about what stands there. -/
theorem diagnostics_name_found {ρ ε : Type} [Reader ρ ε] [Element ε] [DecidableEq ε]
    {library : Library ε} {parser : Parser ε} {input : ρ} {store last : Store} {fuel : Nat}
    {extent : Extent} {report : Report ρ} {message : String} {r : ρ}
    (candidLibrary : library.Candid) (candid : parser.Candid)
    (connected : parser.Connected library report)
    (parsed : store.parse library fuel extent parser input = some (report, last))
    (stopped : report.outcome = .failure message r ∨ report.outcome = .error message r) :
    (∃ starts ended state, parser.Runs library input store.silence starts ended state ∧
      report.outcome = extent.finish ended ∧ Blamed starts extent message r) ∧
    (∀ x, Reader.first r = some x → NamesFound message x) ∧
    (Reader.first r = none → NamesEnd message) := by
  obtain ⟨starts, ended, state, runs, finish, sound⟩ := connected.runs parsed
  have faulty : report.outcome.Faulty (Blamed starts extent) (Blamed starts extent) :=
    finish ▸ candid.finish_faulty candidLibrary runs sound
  have cause : Blamed starts extent message r := by
    rcases stopped with failure | error
    · rwa [failure] at faulty
    · rwa [error] at faulty
  obtain ⟨reason, rfl, fits⟩ := cause.fits
  exact ⟨⟨starts, ended, state, runs, finish, cause⟩, fun x here => fits.namesFound here,
    fits.namesEnd⟩

/-- Two parentheses are open when a letter stops a committed grammar of nested parentheses. -/
theorem diagnostics_name_found_nested :
    let library : Library Char := fun _ => none
    let grammar : Parser Char := .place (.recursive "R" (.choice
      (.seq (.character '(') (.seq (.commit (.reference (.binder "R"))) (.character ')')))
      (.literal "xz"))) true [0]
    let r : TextReader := Reader.advance 3 (TextReader.ofString "((xy")
    ∃ (report : Report TextReader) (last : Store) (message : String),
      ({} : Store).parse library 80 .whole grammar (TextReader.ofString "((xy") =
        some (report, last) ∧ report.outcome = .error message r ∧ NamesFound message 'y' := by
  intro library grammar r
  have ended : (({} : Store).parse library 80 .whole grammar (TextReader.ofString "((xy")).map
      (fun parsed => parsed.1.outcome) =
        some (.error "expected 'z', found 'y' while matching 'xz'" r) := by rfl
  obtain ⟨⟨report, last⟩, parsed, outcome⟩ := Option.map_eq_some_iff.mp ended
  have candid : grammar.Candid := ⟨⟨trivial, ⟨trivial, trivial⟩, trivial⟩, trivial⟩
  have held : grammar.Held library (fun _ _ _ => False) Parser.nowhere :=
    .fixpoint (.choice (.sequence (.primitive _)
      (.sequence (.adjust (.reference rfl)) (.primitive _))) (.primitive _))
  have candidLibrary : library.Candid := nofun
  have heldLibrary : library.Held fun _ _ _ => False := nofun
  have blamed := diagnostics_name_found candidLibrary candid (.inr ⟨_, heldLibrary, held⟩) parsed
    (.inr outcome)
  exact ⟨report, last, _, parsed, outcome, blamed.2.1 'y' rfl⟩

end SafeDescent
