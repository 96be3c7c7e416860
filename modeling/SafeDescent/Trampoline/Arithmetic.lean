import SafeDescent.Trampoline

namespace SafeDescent.Arithmetic

/-- A computation on integers. A note is recorded when the closure that carries it runs. -/
inductive Program where
  | done (n : Int64)
  | more (body : Program) (note : Option String)
  | add (body : Program) (n : Int64) (note : Option String)
  | mul (body : Program) (n : Int64) (note : Option String)
  | sub (body next : Program) (note : Option String)
  | digits (body : Program) (note : Option String)
  | ifZero (body zero other : Program) (note : Option String)
  | countDown (n : Int64)
  | sumTo (n : Int64)
  | left (body : Program) (n : Int64)

/-- What passes from one step to the next. -/
inductive Datum where
  | number (n : Int64)
  | text (s : String)

/-- The number that a step receives; a text counts its characters. -/
def Datum.toNumber : Datum → Int64
  | .number n => n
  | .text s => Int64.ofNat s.length

inductive Thunk where
  | enter (body : Program) (note : Option String)
  | countDown (n : Int64)
  | sumTo (n : Int64)

inductive Continuation where
  | add (n : Int64) (note : Option String)
  | mul (n : Int64) (note : Option String)
  | subFrom (next : Program) (note : Option String)
  | subtract (n : Int64)
  | write (note : Option String)
  | length
  | branch (zero other : Program) (note : Option String)

abbrev Computation := Trampoline Thunk Continuation Datum

/-- Counting down yields zero, one deferred step for each number on the way. -/
def countDown (n : Int64) : Computation :=
  if n ≤ 0 then .done (.number 0) else .more (.countDown (n - 1))

/-- The sum of the numbers up to `n`, each added when the deferred sum below it is known. -/
def sumTo (n : Int64) : Computation :=
  if n ≤ 0 then .done (.number 0) else .flatMap (.more (.sumTo (n - 1))) (.add n none)

/-- Builds the computation without running any of its closures. -/
def Program.computation : Program → Computation
  | .done n => .done (.number n)
  | .more body note => .more (.enter body note)
  | .add body n note => .flatMap body.computation (.add n note)
  | .mul body n note => .flatMap body.computation (.mul n note)
  | .sub body next note => .flatMap body.computation (.subFrom next note)
  | .digits body note => .flatMap (.flatMap body.computation (.write note)) .length
  | .ifZero body zero other note => .flatMap body.computation (.branch zero other note)
  | .countDown n => SafeDescent.Arithmetic.countDown n
  | .sumTo n => SafeDescent.Arithmetic.sumTo n
  | .left body n => Nat.repeat (fun c => .flatMap c (.add 1 none)) n.toInt.toNat body.computation

/-- The notes recorded so far, the latest first. -/
abbrev Notes := List String

def Notes.record (notes : Notes) : Option String → Notes
  | none => notes
  | some note => note :: notes

def call : Thunk → Notes → Computation × Notes
  | .enter body note, notes => (body.computation, notes.record note)
  | .countDown n, notes => (countDown n, notes)
  | .sumTo n, notes => (sumTo n, notes)

def resume : Continuation → Datum → Notes → Computation × Notes
  | .add n note, v, notes => (.done (.number (v.toNumber + n)), notes.record note)
  | .mul n note, v, notes => (.done (.number (v.toNumber * n)), notes.record note)
  | .subFrom next note, v, notes =>
    (.flatMap next.computation (.subtract v.toNumber), notes.record note)
  | .subtract n, v, notes => (.done (.number (v.toNumber - n)), notes)
  | .write note, v, notes => (.done (.text (toString v.toNumber.toInt)), notes.record note)
  | .length, v, notes => (.done (.number v.toNumber), notes)
  | .branch zero other note, v, notes =>
    ((if v.toNumber == 0 then zero else other).computation, notes.record note)

def engine : Engine Thunk Continuation Datum Notes := ⟨call, resume⟩

end SafeDescent.Arithmetic
