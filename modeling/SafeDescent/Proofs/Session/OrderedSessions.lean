import SafeDescent.Proofs.Session.Ownership

namespace SafeDescent.Session

variable {ε : Type} {session : Session ε} {number holder : Nat} {name : String}

theorem ordered_empty : ({} : Session ε).Ordered where
  names := List.nodup_nil
  table _ _ := nofun
  imports holder number := by
    rintro ⟨definition, found, -⟩
    simp at found

theorem Ordered.withStore (h : session.Ordered) (store : Store) :
    ({ session with store := store } : Session ε).Ordered :=
  ⟨h.names, h.table, h.imports⟩

theorem Ordered.drop (h : session.Ordered) (name : String) : (session.drop name).2.Ordered where
  names := (List.filter_sublist.map Prod.fst).nodup h.names
  table other number entry := h.table other number (List.mem_of_mem_filter entry)
  imports := h.imports

theorem installed_of_mem_resolve {imports : List String} {found : String × Nat × Parser ε}
    (hm : found ∈ session.resolve imports) :
    ∃ definition, session.installed[found.2.1]? = some definition ∧
      definition.parser = found.2.2 := by
  obtain ⟨name, -, resolved⟩ := List.mem_filterMap.mp hm
  obtain ⟨number, -, known⟩ := Option.bind_eq_some_iff.mp resolved
  obtain ⟨definition, here, rfl⟩ := Option.map_eq_some_iff.mp known
  exact ⟨definition, here, rfl⟩

theorem install_imports (kind : Kind) (label : Label) (path imports : List Nat)
    (body : Parser ε) : (install kind label path imports body).imports = imports := by
  cases kind <;> rfl

theorem Ordered.define (h : session.Ordered) (kind : Kind) (name : String)
    (imports : List String) (body : Parser ε) :
    (session.define kind name imports body).Ordered where
  names := by
    refine List.nodup_cons.mpr ⟨fun entry => ?_, (List.filter_sublist.map Prod.fst).nodup h.names⟩
    obtain ⟨⟨other, number⟩, kept, same⟩ := List.mem_map.mp entry
    have differ := List.of_mem_filter kept
    simp at differ same
    exact differ same
  table other number entry := by
    have size : (session.define kind name imports body).installed.size =
        session.installed.size + 1 := Array.size_push ..
    rcases List.mem_cons.mp entry with own | earlier
    · obtain ⟨-, rfl⟩ := Prod.mk.inj own
      omega
    · have lt := h.table other number (List.mem_of_mem_filter earlier)
      omega
  imports holder number := by
    rintro ⟨definition, found, held⟩
    change (session.installed.push _)[holder]? = some definition at found
    rw [Array.getElem?_push] at found
    split at found
    next own =>
      obtain rfl := Option.some.inj found
      rw [install_imports] at held
      obtain ⟨⟨_, number, _⟩, resolved, rfl⟩ := List.mem_map.mp held
      obtain ⟨other, here, -⟩ := installed_of_mem_resolve resolved
      exact own ▸ (Array.getElem?_eq_some_iff.mp here).1
    next => exact h.imports holder number ⟨definition, found, held⟩

section Step

variable {ρ : Type} [Reader ρ ε] [Element ε] [DecidableEq ε] {library : Library ε} {fuel : Nat}
  {step : Step ρ ε} {reply : Reply ρ} {next : Session ε}

/-- What a step does to a session: it changes the table, or the store by a parse with the parser or
the handle of a name, or nothing. -/
theorem perform_cases (done : session.perform library fuel step = some (reply, next)) :
    (∃ kind name imports body, step = .define kind name imports body ∧
      next = session.define kind name imports body) ∨
    (∃ name, step = .drop name ∧ next = (session.drop name).2) ∨
    next = session ∨
    ∃ name parser extent input report store,
      (session.parser? name = some parser ∨ session.handle? name = some parser) ∧
        session.store.parse library fuel extent parser (input : ρ) = some (report, store) ∧
        next = { session with store := store } := by
  have ran {name : String} {parser : Parser ε} {extent : Extent} {input : ρ}
      (source : session.parser? name = some parser ∨ session.handle? name = some parser)
      (done : session.run library fuel extent parser input = some (reply, next)) :
      ∃ name parser extent input report store,
        (session.parser? name = some parser ∨ session.handle? name = some parser) ∧
          session.store.parse library fuel extent parser (input : ρ) = some (report, store) ∧
          next = { session with store := store } := by
    obtain ⟨⟨report, store⟩, parsed, he⟩ := Option.map_eq_some_iff.mp done
    obtain ⟨-, rfl⟩ := Prod.mk.inj he
    exact ⟨name, parser, extent, input, report, store, source, parsed, rfl⟩
  have same {answer : Reply ρ} {state : Session ε}
      (done : some (answer, state) = some (reply, next)) : next = state :=
    (Prod.mk.inj (Option.some.inj done)).2.symm
  cases step with
  | define kind name imports body => exact .inl ⟨kind, name, imports, body, rfl, same done⟩
  | parse name extent input =>
    simp only [perform] at done
    split at done
    next parser found => exact .inr (.inr (.inr (ran (.inl found) done)))
    next => exact .inr (.inr (.inl (same done)))
  | handle name extent input =>
    simp only [perform] at done
    split at done
    next parser found => exact .inr (.inr (.inr (ran (.inr found) done)))
    next => exact .inr (.inr (.inl (same done)))
  | built name => exact .inr (.inr (.inl (same done)))
  | drop name => exact .inr (.inl ⟨name, rfl, same done⟩)

end Step

end SafeDescent.Session
