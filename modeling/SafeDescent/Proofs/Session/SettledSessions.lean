import SafeDescent.Proofs.Session.LabelledDefinitions
import SafeDescent.Proofs.Session.OrderedSessions

namespace SafeDescent

variable {ε : Type} {owned : Parser ε → Prop} {store : Store}

namespace Session

/-- The parser is that of an installed definition. -/
def Owns (session : Session ε) (parser : Parser ε) : Prop :=
  ∃ (number : Nat) (definition : Installed ε), session.installed[number]? = some definition ∧
    definition.parser = parser

/-- A definition with a number is as it was installed. Only a recursive one has a handle; its label
and its number belong to it alone. -/
inductive Fits (owned : Parser ε → Prop) (number : Nat) : Installed ε → Prop
  | plain {definition : Installed ε} : definition.handle = none →
      definition.parser.Unlabelled owned → Fits owned number definition
  | recursive {site : Site} {name : String} {body : Parser ε} {imports : List Nat} :
      site.label = some ⟨name, number⟩ → site.kept = true → body.Unlabelled owned →
        Fits owned number ⟨.fixpoint site name body, some (.handle site name body),
          some site.path, imports⟩

/-- The definitions are as they were installed, and the handles belong to built ones of them. -/
structure Settled (session : Session ε) : Prop where
  ordered : session.Ordered
  fits (number : Nat) (definition : Installed ε) : session.installed[number]? = some definition →
    Fits session.Owns number definition
  handles : session.store.HandlesOwned session.Owns

variable {session : Session ε} {owned more : Parser ε → Prop} {number : Nat}

theorem Fits.mono {definition : Installed ε} (h : Fits owned number definition)
    (imp : ∀ parser, owned parser → more parser) : Fits more number definition := by
  cases h with
  | plain handle hp => exact .plain handle (hp.mono imp)
  | recursive labelled kept hb => exact .recursive labelled kept (hb.mono imp)

theorem Settled.startable (h : session.Settled) {parser : Parser ε} (own : session.Owns parser) :
    parser.Startable session.Owns := by
  obtain ⟨number, definition, found, rfl⟩ := own
  have fits := h.fits number definition found
  cases fits with
  | plain _ hp => exact .unlabelled hp
  | recursive labelled _ hb => exact .labelled labelled ⟨number, _, found, rfl⟩ hb

theorem Settled.stored (h : session.Settled) {name : String} {label : Label}
    (stored : session.store.handle? name = some label) :
    ∃ site body imports, session.installed[label.number]? =
        some ⟨.fixpoint site name body, some (.handle site name body), some site.path, imports⟩ ∧
      site.label = some label ∧ site.kept = true ∧ session.store.isBuilt site.path = true := by
  have kept : label ∈ session.store.handles := List.mem_of_find?_eq_some stored
  obtain rfl : label.name = name := by simpa using List.find?_some stored
  obtain ⟨site, body, labelled, ⟨number, definition, found, same⟩, built⟩ := h.handles label kept
  have fits := h.fits number definition found
  cases fits with
  | plain _ hp =>
    rw [same] at hp
    rw [hp.1] at labelled
    cases labelled
  | @recursive own name inner imports labelled' held _ =>
    obtain ⟨rfl, rfl, rfl⟩ := Parser.fixpoint.inj same
    have own : number = label.number :=
      congrArg Label.number (Option.some.inj (labelled'.symm.trans labelled))
    exact ⟨_, _, imports, own ▸ found, labelled, held, built⟩

theorem settled_empty : ({} : Session ε).Settled where
  ordered := ordered_empty
  fits number definition found := by simp at found
  handles := nofun

theorem Settled.drop (h : session.Settled) (name : String) : (session.drop name).2.Settled :=
  ⟨h.ordered.drop name, h.fits, h.handles⟩

theorem owns_define (kind : Kind) (name : String) (imports : List String) (body : Parser ε)
    {parser : Parser ε} (own : session.Owns parser) :
    (session.define kind name imports body).Owns parser := by
  obtain ⟨number, definition, found, same⟩ := own
  have lt := (Array.getElem?_eq_some_iff.mp found).1
  refine ⟨number, definition, ?_, same⟩
  change (session.installed.push _)[number]? = some definition
  rw [Array.getElem?_push, if_neg (by omega)]
  exact found

theorem meaning_unlabelled (imports : List String) (target : Reference) :
    (meaning (session.resolve imports) target).Unlabelled session.Owns := by
  cases target with
  | binder name => trivial
  | definition name =>
    simp only [meaning]
    split
    next number parser found =>
      obtain ⟨definition, here, same⟩ :=
        installed_of_mem_resolve (List.mem_of_find?_eq_some found)
      exact ⟨_, definition, here, same⟩
    next => trivial

theorem Settled.define (h : session.Settled) (kind : Kind) (name : String)
    (imports : List String) {body : Parser ε} (plain : body.Plain) :
    (session.define kind name imports body).Settled where
  ordered := h.ordered.define kind name imports body
  handles := (h.handles.mono fun _ => owns_define kind name imports body).of_eq rfl rfl
  fits number definition found := by
    change (session.installed.push _)[number]? = some definition at found
    rw [Array.getElem?_push] at found
    split at found
    next own =>
      obtain rfl := Option.some.inj found
      subst own
      have inner : (body.substitute (meaning (session.resolve imports))).Unlabelled
          (session.define kind name imports body).Owns :=
        ((plain.unlabelled session.Owns).substitute (meaning_unlabelled imports)).mono
          fun _ => owns_define kind name imports body
      cases kind with
      | plain => exact .plain rfl (inner.place ..)
      | lazy => exact .plain rfl (inner.place ..)
      | recursive => exact .recursive rfl rfl (inner.place ..)
    next => exact (h.fits number definition found).mono fun _ =>
      owns_define kind name imports body

/-- The handle under a name is that of the definition that left it, as long as this one lives. -/
theorem Settled.handle_eq (h : session.Settled) {name : String} {label : Label}
    (stored : session.store.handle? name = some label) :
    ∃ site body definition, session.installed[label.number]? = some definition ∧
      definition.parser = .fixpoint site name body ∧ site.label = some label ∧ site.kept = true ∧
      session.store.isBuilt site.path = true ∧
      (session.Live label.number → session.handle? name = some (.handle site name body)) ∧
      (¬ session.Live label.number → session.handle? name = some (.reference (.binder name))) := by
  obtain ⟨site, body, imports, found, labelled, kept, built⟩ := h.stored stored
  have contains : session.live.contains label.number = true ↔ session.Live label.number := by
    rw [List.contains_iff_mem, h.ordered.mem_live]
  refine ⟨site, body, _, found, rfl, labelled, kept, built, fun live => ?_, fun dead => ?_⟩
  · have present := contains.mpr live
    simp only [handle?, stored, found, Option.map_some, Option.bind_some, if_pos present]
  · have absent := mt contains.mp dead
    simp only [handle?, stored, found, Option.map_some, Option.bind_some, if_neg absent]

/-- What a name stands for, and what its handle stands for, are definitions of the session. -/
theorem Settled.startable_of_name (h : session.Settled) {name : String} {parser : Parser ε}
    (source : session.parser? name = some parser ∨ session.handle? name = some parser) :
    parser.Startable session.Owns := by
  rcases source with found | found
  · obtain ⟨definition, entry, rfl⟩ := Option.map_eq_some_iff.mp found
    obtain ⟨number, -, here⟩ := Option.bind_eq_some_iff.mp entry
    exact h.startable ⟨number, definition, here, rfl⟩
  · obtain ⟨label, stored, -⟩ := Option.map_eq_some_iff.mp found
    obtain ⟨site, body, definition, here, same, -, -, -, alive, dead⟩ := h.handle_eq stored
    by_cases live : session.Live label.number
    · obtain rfl := Option.some.inj ((alive live).symm.trans found)
      exact .unlabelled (.inr ⟨label.number, definition, here, same⟩)
    · obtain rfl := Option.some.inj ((dead live).symm.trans found)
      exact .unlabelled trivial

end Session

end SafeDescent
