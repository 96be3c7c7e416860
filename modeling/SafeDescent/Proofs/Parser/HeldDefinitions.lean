import SafeDescent.Proofs.Parser.Substitution

namespace SafeDescent

variable {ρ ε : Type}

namespace Parser

/-- The names that may be used inside a recursive definition, given those that may be used around
it. Its own name may be used if something holds the definition while it runs. -/
def within (name : String) (site : Site) (bound : Reference → Prop) (target : Reference) : Prop :=
  if target = .binder name then site.kept = true else bound target

/-- Each use of a definition in the parser finds the definition still there, if the bound names lead
somewhere. A definition that a function makes is held by the loops around it in what is made, so
what is made is judged when it has got its sites. A copy needs a definition in the library, and the
names that this definition needs have to lead somewhere where the copy stands. -/
inductive Held (library : Library ε) (needs : String → Bool → Reference → Prop) :
    (Reference → Prop) → Parser ε → Prop
  | primitive {bound : Reference → Prop} (p : Primitive ε) : Held library needs bound (.primitive p)
  | sequence {bound : Reference → Prop} {combine : Value → Value → Value}
      {first second : Parser ε} : Held library needs bound first → Held library needs bound second →
        Held library needs bound (.sequence combine first second)
  | choice {bound : Reference → Prop} {first second : Parser ε} :
      Held library needs bound first → Held library needs bound second →
        Held library needs bound (.choice first second)
  | many {bound : Reference → Prop} {bounds : Bounds} {body : Parser ε} :
      Held library needs bound body → Held library needs bound (.many bounds body)
  | chain {bound : Reference → Prop} {join : Value → Value → Value → Value} {bounds : Bounds}
      {operand separator : Parser ε} : Held library needs bound operand →
      Held library needs bound separator →
        Held library needs bound (.chain join bounds operand separator)
  | adjust {bound : Reference → Prop} {adjustment : Adjustment} {body : Parser ε} :
      Held library needs bound body → Held library needs bound (.adjust adjustment body)
  | flatMap {bound : Reference → Prop} {body : Parser ε} {next : Value → Parser ε} :
      Held library needs bound body →
      (∀ v path, Held library needs bound ((next v).place false path)) →
        Held library needs bound (.flatMap body next)
  | select {bound : Reference → Prop} {body : Parser ε} {index : Value → Nat}
      {branches : Nat → Parser ε} : Held library needs bound body →
      (∀ i, Held library needs bound (branches i)) →
        Held library needs bound (.select body index branches)
  | tap {bound : Reference → Prop} {id : String} {body : Parser ε} :
      Held library needs bound body → Held library needs bound (.tap id body)
  | deferred {bound : Reference → Prop} {site : Site} {body : Parser ε} :
      Held library needs bound body → Held library needs bound (.deferred site body)
  | fixpoint {bound : Reference → Prop} {site : Site} {name : String} {body : Parser ε} :
      Held library needs (within name site bound) body →
        Held library needs bound (.fixpoint site name body)
  | copied {bound : Reference → Prop} {site : Site} {name : String}
      {scope : Reference → Parser ε} : (library name).isSome → Sealing scope →
      (∀ target, needs name site.kept target → Held library needs bound (scope target)) →
        Held library needs bound (.copied site name scope)
  | reference {bound : Reference → Prop} {target : Reference} : bound target →
      Held library needs bound (.reference target)
  | handle {bound : Reference → Prop} {site : Site} {name : String} {body : Parser ε} :
      site.kept = true → Held library needs (within name site fun _ => False) body →
        Held library needs bound (.handle site name body)
  | shared {bound : Reference → Prop} {body : Parser ε} :
      Held library needs (fun _ => False) body → Held library needs bound (.shared body)

variable {library : Library ε} {needs : String → Bool → Reference → Prop}
  {bound bound' : Reference → Prop} {parser : Parser ε} {meaning : Reference → Parser ε}

/-- A sealed parser is held wherever it stands, and a name where it is bound. -/
theorem Held.elsewhere {target : Reference} (h : Held library needs bound parser)
    (hp : parser = .reference target ∨ Sealed parser) (still : bound target → bound' target) :
    Held library needs bound' parser := by
  rcases hp with rfl | ⟨site, name, body⟩ | ⟨body⟩
  · cases h with
    | reference hb => exact .reference (still hb)
  · cases h with
    | handle kept hb => exact .handle kept hb
  · cases h with
    | shared hb => exact .shared hb

/-- Bound names may be given meanings that are held. -/
theorem Held.substitute (h : Held library needs bound parser) (sealing : Sealing meaning)
    (hm : ∀ target, bound target → Held library needs bound' (meaning target)) :
    Held library needs bound' (parser.substitute meaning) := by
  induction h generalizing bound' meaning with
  | primitive p => exact .primitive p
  | sequence _ _ ih₁ ih₂ => exact .sequence (ih₁ sealing hm) (ih₂ sealing hm)
  | choice _ _ ih₁ ih₂ => exact .choice (ih₁ sealing hm) (ih₂ sealing hm)
  | many _ ih => exact .many (ih sealing hm)
  | chain _ _ ih₁ ih₂ => exact .chain (ih₁ sealing hm) (ih₂ sealing hm)
  | adjust _ ih => exact .adjust (ih sealing hm)
  | flatMap _ _ ih₁ ih₂ =>
    refine .flatMap (ih₁ sealing hm) fun v path => ?_
    rw [place_substitute sealing]
    exact ih₂ v path sealing hm
  | select _ _ ih₁ ih₂ => exact .select (ih₁ sealing hm) fun i => ih₂ i sealing hm
  | tap _ ih => exact .tap (ih sealing hm)
  | deferred _ ih => exact .deferred (ih sealing hm)
  | @fixpoint bound site name body _ ih =>
    rw [substitute_fixpoint]
    refine .fixpoint (ih (sealing.under name) fun target given => ?_)
    by_cases own : target = .binder name
    · have kept : site.kept = true := by simpa [within, own] using given
      rw [under, if_pos own]
      exact .reference (by simpa [within, own] using kept)
    · have around : bound target := by simpa [within, own] using given
      rw [under, if_neg own]
      have inside : bound' target → within name site bound' target := by simp [within, own]
      exact (hm target around).elsewhere (sealing target) inside
  | copied known hs _ ih =>
    exact .copied known (hs.substitute sealing) fun target needed => ih target needed sealing hm
  | reference hb => exact hm _ hb
  | handle kept hb _ => exact .handle kept hb
  | shared hb _ => exact .shared hb

/-- No name leads anywhere. -/
def nowhere (_ : Reference) : Prop := False

/-- The body of a definition is held with the handle in the place of its name. -/
theorem Held.unfold {site : Site} {name : String} {body : Parser ε}
    (h : Held library needs (within name site nowhere) body) :
    Held library needs nowhere (Parser.unfold site name body) := by
  refine h.substitute (sealing_only (.handle ..) _) fun target given => ?_
  by_cases own : target = .binder name
  · have kept : site.kept = true := by simpa [within, own] using given
    rw [only, if_pos own]
    exact .handle kept h
  · have around : nowhere target := by simpa [within, own] using given
    exact around.elim

end Parser

end SafeDescent
