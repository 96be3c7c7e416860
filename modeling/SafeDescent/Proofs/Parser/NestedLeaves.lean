import Mathlib.Data.List.Forall2
import SafeDescent.Parser.Machine
import SafeDescent.Proofs.Parser.Alike

namespace SafeDescent

variable {ρ ε β : Type}

/-- The first list is the second with starts of sequences put between its members. -/
inductive Woven : List (Start ρ ε) → List (Start ρ ε) → Prop
  | nil : Woven [] []
  | sequence {combine : Value → Value → Value} {first second : Parser ε} {input : ρ}
      {starts parts : List (Start ρ ε)} :
      Woven starts parts → Woven (⟨.sequence combine first second, input⟩ :: starts) parts
  | part {starts parts : List (Start ρ ε)} (start : Start ρ ε) :
      Woven starts parts → Woven (start :: starts) (start :: parts)

theorem Woven.refl (starts : List (Start ρ ε)) : Woven starts starts := by
  induction starts with
  | nil => exact .nil
  | cons start starts ih => exact .part start ih

theorem Woven.append {starts parts more rest : List (Start ρ ε)} (h : Woven starts parts)
    (h' : Woven more rest) : Woven (starts ++ more) (parts ++ rest) := by
  induction h with
  | nil => exact h'
  | sequence _ ih => exact .sequence ih
  | part start _ ih => exact .part start ih

namespace Parser

/-- A leaf of a tree of sequences: a parser, with the elements that its value contributes. -/
abbrev Leaf (ε β : Type) := Parser ε × (Value → List β)

/-- What the leaves contribute, from left to right. -/
def contents (leaves : List (Leaf ε β)) (values : List Value) : List β :=
  (List.zipWith (fun leaf value => leaf.2 value) leaves values).flatten

theorem contents_singleton (leaf : Leaf ε β) (value : Value) :
    contents [leaf] [value] = leaf.2 value := by
  simp [contents]

theorem contents_append {leaves leaves' : List (Leaf ε β)} {values values' : List Value}
    (same : values.length = leaves.length) :
    contents (leaves ++ leaves') (values ++ values') =
      contents leaves values ++ contents leaves' values' := by
  simp [contents, List.zipWith_append same.symm]

/-- A parser built up from its leaves by sequences, however they are bracketed. Every value along the
way is read as a list, and what a sequence makes of two values is read as the two lists in order. -/
inductive Nested : Parser ε → List (Leaf ε β) → (Value → List β) → Prop
  | leaf (parser : Parser ε) (read : Value → List β) : Nested parser [(parser, read)] read
  | sequence {combine : Value → Value → Value} {first second : Parser ε}
      {leaves leaves' : List (Leaf ε β)} {readFirst readSecond read : Value → List β} :
      Nested first leaves readFirst → Nested second leaves' readSecond →
      (∀ a b, read (combine a b) = readFirst a ++ readSecond b) →
        Nested (.sequence combine first second) (leaves ++ leaves') read

/-- Parts that are at other places, and contribute the same. -/
def Leaf.Moved (kept : Bool) (leaf leaf' : Leaf ε β) : Prop :=
  leaf'.2 = leaf.2 ∧ ∃ path, leaf'.1 = leaf.1.place kept path

theorem Nested.place {parser : Parser ε} {leaves : List (Leaf ε β)} {read : Value → List β}
    (h : Nested parser leaves read) (kept : Bool) (path : List Nat) :
    ∃ leaves', Nested (parser.place kept path) leaves' read ∧
      List.Forall₂ (Leaf.Moved kept) leaves leaves' := by
  induction h generalizing path with
  | leaf parser read => exact ⟨_, .leaf _ read, .cons ⟨rfl, path, rfl⟩ .nil⟩
  | sequence _ _ joins ih ih' =>
    obtain ⟨before, hfirst, moved⟩ := ih (0 :: path)
    obtain ⟨after, hsecond, moved'⟩ := ih' (1 :: path)
    exact ⟨_, .sequence hfirst hsecond joins, List.rel_append moved moved'⟩

theorem contents_moved {kept : Bool} {leaves leaves' : List (Leaf ε β)}
    (h : List.Forall₂ (Leaf.Moved kept) leaves leaves') : contents leaves' = contents leaves := by
  funext values
  induction h generalizing values with
  | nil => rfl
  | cons moved _ ih =>
    cases values with
    | nil => rfl
    | cons value values =>
      have rest := ih values
      simp only [contents] at rest
      simp only [contents, List.zipWith_cons_cons, List.flatten_cons, moved.1, rest]

/-- The same parsers at two places are alike. -/
theorem Leaf.Moved.alike {kept : Bool} {leaves leaves' placed placed' : List (Leaf ε β)}
    (h : List.Forall₂ (Leaf.Moved kept) leaves placed)
    (h' : List.Forall₂ (Leaf.Moved kept) leaves' placed')
    (same : leaves'.map Prod.fst = leaves.map Prod.fst) :
    List.Forall₂ (Alike fun _ => True) (placed.map Prod.fst) (placed'.map Prod.fst) := by
  induction h generalizing leaves' placed' with
  | nil =>
    obtain rfl := List.map_eq_nil_iff.mp same
    cases h'
    exact .nil
  | cons moved _ ih =>
    cases h' with
    | nil => cases same
    | cons moved' rest =>
      obtain ⟨-, path, hplace⟩ := moved
      obtain ⟨-, path', hplace'⟩ := moved'
      obtain ⟨parser, rests⟩ := List.cons.inj same
      refine .cons ?_ (ih rest rests)
      rw [hplace, hplace', parser]
      exact (madeOf_anything _).alike.place kept path path'

theorem Leaf.Moved.forall₂ {kept : Bool} {leaves placed : List (Leaf ε β)}
    (h : List.Forall₂ (Leaf.Moved kept) leaves placed) {Q : Parser ε → Value → Prop}
    {values : List Value} (hq : List.Forall₂ Q (placed.map Prod.fst) values) :
    List.Forall₂ (fun leaf value => ∃ path, Q (leaf.1.place kept path) value) leaves values := by
  induction h generalizing values with
  | nil =>
    cases hq
    exact .nil
  | cons moved _ ih =>
    cases hq with
    | cons holds rest =>
      obtain ⟨-, path, hplace⟩ := moved
      rw [hplace] at holds
      exact .cons ⟨path, holds⟩ (ih rest)

end Parser

end SafeDescent
