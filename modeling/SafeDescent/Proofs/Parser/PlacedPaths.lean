import SafeDescent.Proofs.Parser.Places

namespace SafeDescent

variable {ε : Type}

/-- The definitions of a library as they are written. -/
def Library.Plain (library : Library ε) : Prop :=
  ∀ name body, library name = some body → Parser.Plain body

namespace Parser

variable {library : Library ε} {made more : Nat → Option (Parser ε)} {parser part : Parser ε}
  {path : List Nat}

theorem Placed.child (hl : library.Plain) {step : Nat}
    (found : find? library made path = some parser) (h : Placed library made path parser)
    (hc : parser.child? library step = some part) : Placed library made (step :: path) part := by
  cases h with
  | primitive p => cases hc
  | sequence h₁ h₂ =>
    match step with
    | 0 => cases hc; exact h₁
    | 1 => cases hc; exact h₂
    | _ + 2 => cases hc
  | choice h₁ h₂ =>
    match step with
    | 0 => cases hc; exact h₁
    | 1 => cases hc; exact h₂
    | _ + 2 => cases hc
  | many h =>
    match step with
    | 0 => cases hc; exact h
    | _ + 1 => cases hc
  | chain h₁ h₂ =>
    match step with
    | 0 => cases hc; exact h₁
    | 1 => cases hc; exact h₂
    | _ + 2 => cases hc
  | adjust h =>
    match step with
    | 0 => cases hc; exact h
    | _ + 1 => cases hc
  | flatMap h _ =>
    match step with
    | 0 => cases hc; exact h
    | _ + 1 => cases hc
  | select h hb =>
    match step with
    | 0 => cases hc; exact h
    | i + 1 => cases hc; exact hb i
  | tap h =>
    match step with
    | 0 => cases hc; exact h
    | _ + 1 => cases hc
  | deferred h =>
    match step with
    | 0 => cases hc; exact h
    | _ + 1 => cases hc
  | fixpoint h =>
    match step with
    -- The handles in the body lead to this definition, which is why its place has to be known.
    | 0 => cases hc; exact h.unfold found
    | _ + 1 => cases hc
  | @copied site name scope sealing hs =>
    match step with
    | 0 =>
      obtain ⟨body, defined, rfl⟩ := Option.map_eq_some_iff.mp hc
      rw [place_substitute sealing]
      exact ((hl name body defined).placed ..).substitute sealing hs
    | _ + 1 => cases hc
  | reference target => cases hc
  | handle _ => cases hc

theorem placed_of_find? (hl : library.Plain)
    (numbered : ∀ number parser, made number = some parser → Placed library made [number] parser)
    (found : find? library made path = some parser) : Placed library made path parser := by
  induction path generalizing parser with
  | nil => cases found
  | cons step path ih =>
    cases path with
    | nil => exact numbered step parser found
    | cons next path =>
      obtain ⟨parent, around, hc⟩ := Option.bind_eq_some_iff.mp found
      exact (ih around).child hl around hc

/-- The first parsers with numbers have them among the second ones, too. -/
def Extends (made more : Nat → Option (Parser ε)) : Prop :=
  ∀ number parser, made number = some parser → more number = some parser

theorem Extends.find? (extend : Extends made more)
    (found : Parser.find? library made path = some parser) :
    Parser.find? library more path = some parser := by
  induction path generalizing parser with
  | nil => cases found
  | cons step path ih =>
    cases path with
    | nil => exact extend step parser found
    | cons next path =>
      obtain ⟨parent, around, hc⟩ := Option.bind_eq_some_iff.mp found
      exact Option.bind_eq_some_iff.mpr ⟨parent, ih around, hc⟩

theorem Extends.placed (extend : Extends made more) (h : Placed library made path parser) :
    Placed library more path parser := by
  induction h with
  | primitive p => exact .primitive p
  | sequence _ _ ih₁ ih₂ => exact .sequence ih₁ ih₂
  | choice _ _ ih₁ ih₂ => exact .choice ih₁ ih₂
  | many _ ih => exact .many ih
  | chain _ _ ih₁ ih₂ => exact .chain ih₁ ih₂
  | adjust _ ih => exact .adjust ih
  | flatMap _ _ ih₁ ih₂ => exact .flatMap ih₁ ih₂
  | select _ _ ih₁ ih₂ => exact .select ih₁ ih₂
  | tap _ ih => exact .tap ih
  | deferred _ ih => exact .deferred ih
  | fixpoint _ ih => exact .fixpoint ih
  | copied sealing _ ih => exact .copied sealing ih
  | reference target => exact .reference target
  | handle found => exact .handle (extend.find? found)

/-- A path leads to the parser, or to each part of it. -/
inductive Known (library : Library ε) (made : Nat → Option (Parser ε)) : Parser ε → Prop
  | found {path : List Nat} {parser : Parser ε} : find? library made path = some parser →
      Known library made parser
  | many {bounds : Bounds} {body : Parser ε} : Known library made body →
      Known library made (.many bounds body)
  | sequence {combine : Value → Value → Value} {first second : Parser ε} :
      Known library made first → Known library made second →
        Known library made (.sequence combine first second)

theorem Extends.known (extend : Extends made more) (h : Known library made parser) :
    Known library more parser := by
  induction h with
  | found here => exact .found (extend.find? here)
  | many _ ih => exact .many ih
  | sequence _ _ ih₁ ih₂ => exact .sequence ih₁ ih₂

theorem Known.child (h : Known library made parser) (step : Nat)
    (hc : parser.child? library step = some part) : Known library made part := by
  cases h with
  | @found path _ here =>
    cases path with
    | nil => cases here
    | cons next path =>
      have further : find? library made (step :: next :: path) = some part :=
        Option.bind_eq_some_iff.mpr ⟨parser, here, hc⟩
      exact .found further
  | many h =>
    match step with
    | 0 => cases hc; exact h
    | _ + 1 => cases hc
  | sequence h₁ h₂ =>
    match step with
    | 0 => cases hc; exact h₁
    | 1 => cases hc; exact h₂
    | _ + 2 => cases hc

end Parser

end SafeDescent
