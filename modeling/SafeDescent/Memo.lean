import SafeDescent.Record

namespace SafeDescent

/-- A value that is produced from its definition when it is first asked for, and kept. -/
inductive Memo (δ α : Type) where
  | pending (definition : δ)
  | ready (value : α)

namespace Memo

variable {δ α σ : Type}

def isReady : Memo δ α → Bool
  | .pending _ => false
  | .ready _ => true

/-- The value, together with the memo that keeps it. Only the first use produces it and then notes
that it did. -/
def force (produce : δ → σ → α × σ) (note : Record → σ → σ) :
    Memo δ α → σ → α × Memo δ α × σ
  | .ready value, state => (value, .ready value, state)
  | .pending definition, state =>
    let (value, state) := produce definition state
    (value, .ready value, note .lazyConstructed state)

end Memo

end SafeDescent
