import SafeDescent.Proofs.Parser.JoinedCharacters
import SafeDescent.Proofs.Parser.Substitution

namespace SafeDescent

/-- The value of a success is the text that was read. A value that is given stands for no text. -/
def Primitive.Verbatim : Primitive Char → Yield → Prop
  | .succeed value, y => value.chars = [] ∧ value.Has y
  | .fail _, _ => True
  | .fatal _, _ => True
  | .any, y => Yield.character.Fits y
  | .satisfy _ _, y => Yield.character.Fits y
  | .literal _, y => y = .anything
  | .endOfInput, y => y = .anything

/-- The adjustment drops no text of a success that it does not give back, and adds none. The first
yield is that of the parser, and the second one that of the adjusted parser. -/
def Adjustment.Verbatim : Adjustment → Yield → Yield → Prop
  | .map _, _, _ => False
  | .optional, _, y => y = .anything
  | .negate, _, y => y = .anything
  | .guard, _, y => y = .anything
  | .commit, known, y => known = y
  | .failureMessage _, known, y => known = y
  | .errorMessage _, known, y => known = y
  | .phrase, known, y => known = y
  | .spanned, _, _ => False

/-- What a definition of a library yields when its open names yield what they are said to. -/
abbrev Signatures := String → (Reference → Yield) → Yield → Prop

namespace Parser

/-- The yields of the open names inside a recursive definition. -/
def bind (names : Reference → Yield) (name : String) (y : Yield) (target : Reference) : Yield :=
  if target = .binder name then y else names target

/-- The values of the parser hold all the text that it reads, in order and nothing else, if its open
names yield such values as well. -/
def Verbatim (signatures : Signatures) : Parser Char → (Reference → Yield) → Yield → Prop
  | .primitive p, _, y => p.Verbatim y
  | .sequence combine first second, names, y => ∃ y₁ y₂ known, Joins combine y₁ y₂ known ∧
      known.Fits y ∧ first.Verbatim signatures names y₁ ∧ second.Verbatim signatures names y₂
  | .choice first second, names, y =>
    first.Verbatim signatures names y ∧ second.Verbatim signatures names y
  | .many _ body, names, y => y = .anything ∧ body.Verbatim signatures names .anything
  | .chain _ _ _ _, _, _ => False
  | .adjust adjustment body, names, y =>
    ∃ known, adjustment.Verbatim known y ∧ body.Verbatim signatures names known
  | .flatMap _ _, _, _ => False
  | .select _ _ _, _, _ => False
  | .tap _ body, names, y => body.Verbatim signatures names y
  | .deferred _ body, names, y => body.Verbatim signatures names y
  | .fixpoint _ name body, names, y =>
    ∃ known, known.Fits y ∧ body.Verbatim signatures (bind names name known) known
  | .copied _ name scope, names, y => Sealing scope ∧ ∃ inner known, signatures name inner known ∧
      known.Fits y ∧ ∀ target, (scope target).Verbatim signatures names (inner target)
  | .reference target, names, y => (names target).Fits y
  | .handle _ name body, _, y =>
    ∃ names known, known.Fits y ∧ body.Verbatim signatures (bind names name known) known
  | .shared body, _, y => ∃ names known, known.Fits y ∧ body.Verbatim signatures names known

variable {signatures : Signatures} {parser : Parser Char} {names names' : Reference → Yield}
  {y : Yield}

/-- Giving definitions their sites changes no value. -/
theorem Verbatim.place (h : parser.Verbatim signatures names y) (kept : Bool) (path : List Nat) :
    (parser.place kept path).Verbatim signatures names y := by
  induction parser generalizing names y kept path with
  | primitive p => exact h
  | sequence combine first second ih₁ ih₂ =>
    obtain ⟨y₁, y₂, known, joins, fits, h₁, h₂⟩ := h
    exact ⟨y₁, y₂, known, joins, fits, ih₁ h₁ .., ih₂ h₂ ..⟩
  | choice first second ih₁ ih₂ => exact ⟨ih₁ h.1 .., ih₂ h.2 ..⟩
  | many bounds body ih => exact ⟨h.1, ih h.2 ..⟩
  | chain join bounds operand separator => exact h.elim
  | adjust adjustment body ih =>
    obtain ⟨known, keeps, hb⟩ := h
    exact ⟨known, keeps, ih hb ..⟩
  | flatMap body next => exact h.elim
  | select body index branches => exact h.elim
  | tap id body ih => exact ih h ..
  | deferred site body ih => exact ih h ..
  | fixpoint site name body ih =>
    obtain ⟨known, fits, hb⟩ := h
    exact ⟨known, fits, ih hb ..⟩
  | copied site name scope => exact h
  | reference target => exact h
  | handle site name body => exact h
  | shared body => exact h

/-- A sealed parser does not look at names, and it may be known less of what it yields. -/
theorem Verbatim.elsewhere (h : parser.Verbatim signatures names y) (sealed : Sealed parser)
    {wanted : Yield} (fits : y.Fits wanted) : parser.Verbatim signatures names' wanted := by
  cases sealed with
  | handle site name body =>
    obtain ⟨inner, known, hk, hb⟩ := h
    exact ⟨inner, known, hk.trans fits, hb⟩
  | shared body =>
    obtain ⟨inner, known, hk, hb⟩ := h
    exact ⟨inner, known, hk.trans fits, hb⟩

/-- Names may be given meanings that yield what the names are known to yield. -/
theorem Verbatim.substitute (h : parser.Verbatim signatures names y)
    {meaning : Reference → Parser Char} (sealing : Sealing meaning)
    (hm : ∀ target y, (names target).Fits y → (meaning target).Verbatim signatures names' y) :
    (parser.substitute meaning).Verbatim signatures names' y := by
  induction parser generalizing names names' y meaning with
  | primitive p => exact h
  | sequence combine first second ih₁ ih₂ =>
    obtain ⟨y₁, y₂, known, joins, fits, h₁, h₂⟩ := h
    exact ⟨y₁, y₂, known, joins, fits, ih₁ h₁ sealing hm, ih₂ h₂ sealing hm⟩
  | choice first second ih₁ ih₂ => exact ⟨ih₁ h.1 sealing hm, ih₂ h.2 sealing hm⟩
  | many bounds body ih => exact ⟨h.1, ih h.2 sealing hm⟩
  | chain join bounds operand separator => exact h.elim
  | adjust adjustment body ih =>
    obtain ⟨known, keeps, hb⟩ := h
    exact ⟨known, keeps, ih hb sealing hm⟩
  | flatMap body next => exact h.elim
  | select body index branches => exact h.elim
  | tap id body ih => exact ih h sealing hm
  | deferred site body ih => exact ih h sealing hm
  | fixpoint site name body ih =>
    obtain ⟨known, fits, hb⟩ := h
    refine ⟨known, fits, ih hb (sealing.under name) ?_⟩
    intro target y fits
    by_cases own : target = .binder name
    · simpa [under, own, Verbatim, bind] using fits
    · have given : (names target).Fits y := by simpa [bind, own] using fits
      have meant := hm target y given
      have other : under name meaning target = meaning target := if_neg own
      change (under name meaning target).Verbatim signatures (bind names' name known) y
      rw [other]
      -- A name that stays open is not the definition's own; a sealed parser looks at no names.
      rcases sealing target with same | settled
      · rw [same] at meant ⊢
        simpa [Verbatim, bind, own] using meant
      · exact meant.elsewhere settled (Yield.fits_self y)
  | copied site name scope ih =>
    obtain ⟨hs, inner, known, signature, fits, hi⟩ := h
    exact ⟨hs.substitute sealing, inner, known, signature, fits,
      fun target => ih target (hi target) sealing hm⟩
  | reference target => exact hm target y h
  | handle site name body => exact h
  | shared body => exact h

/-- A copied definition yields what it is said to, in the scope of the copy. -/
theorem Verbatim.copy {scope : Reference → Parser Char} {inner : Reference → Yield}
    (h : parser.Verbatim signatures inner y) (sealing : Sealing scope)
    (hs : ∀ target, (scope target).Verbatim signatures names (inner target)) (kept : Bool)
    (path : List Nat) :
    ((parser.substitute scope).place kept path).Verbatim signatures names y := by
  refine Verbatim.place (h.substitute sealing ?_) kept path
  intro target wanted fits
  have given := hs target
  rcases sealing target with same | settled
  · rw [same] at given ⊢
    exact Yield.Fits.trans given fits
  · exact given.elsewhere settled fits

/-- A recursive definition yields what its body does with a handle in the place of the name. -/
theorem Verbatim.unfold {site : Site} {name : String} {body : Parser Char}
    (h : body.Verbatim signatures (bind names name y) y) :
    (Parser.unfold site name body).Verbatim signatures names y := by
  refine h.substitute (sealing_only (.handle ..) _) ?_
  intro target wanted fits
  unfold only
  split
  next own => exact ⟨names, y, by simpa [bind, own] using fits, h⟩
  next other => simpa [Verbatim, bind, other] using fits

end Parser

/-- The definitions of a library yield what their signatures say. -/
def Library.Verbatim (library : Library Char) (signatures : Signatures) : Prop :=
  ∀ name body names y, library name = some body → signatures name names y →
    body.Verbatim signatures names y

end SafeDescent
