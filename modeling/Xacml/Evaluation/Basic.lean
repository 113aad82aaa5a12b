/-
What it is to evaluate. An evaluation starts from a store of compiled patterns and yields an answer
or a failure, the store as it was left, and the events that took place, in order: the leaves that
were evaluated, the kernels that were run, and the calls that combinators made.
-/
import Xacml.Expr.Basic
import Xacml.Pattern.Cache

namespace Xacml

/-! ## Events and outcomes -/

/-- Something that happened during an evaluation. -/
inductive Event where
  /-- A leaf was evaluated. -/
  | leaf (l : Leaf)
  /-- A kernel was run. -/
  | kernel (function : String) (arguments : Arguments)
  /-- A combinator called its function. -/
  | subCall (function : String) (values : List AttributeValue)

structure Outcome (α : Type) where
  result : Except Failure α
  cache : Pattern.Cache
  events : List Event

/-- An evaluation that is yet to be carried out. -/
def Eval (α : Type) : Type := Pattern.Cache → Outcome α

namespace Eval

variable {α β : Type}

/-- An answer without any event. -/
def done (r : Except Failure α) : Eval α := fun c => ⟨r, c, []⟩

def ok (a : α) : Eval α := done (.ok a)

def fail (f : Failure) : Eval α := done (.error f)

/-- Goes on with the answer of an evaluation; a failure ends it. -/
def andThen (x : Eval α) (f : α → Eval β) : Eval β := fun c =>
  let first := x c
  match first.result with
  | .error e => ⟨.error e, first.cache, first.events⟩
  | .ok a =>
    let second := f a first.cache
    ⟨second.result, second.cache, first.events ++ second.events⟩

instance : Monad Eval where
  pure := ok
  bind := andThen

/-- Notes an event. -/
def note (e : Event) : Eval Unit := fun c => ⟨.ok (), c, [e]⟩

/-- Changes the failure of an evaluation. -/
def mapFailure (f : Failure → Failure) (x : Eval α) : Eval α := fun c =>
  let o := x c
  { o with result := o.result.mapError f }

theorem mapError_ok (f : Failure → Failure) (a : α) :
    (Except.ok a : Except Failure α).mapError f = .ok a := rfl

theorem mapError_error (f : Failure → Failure) (e : Failure) :
    (Except.error e : Except Failure α).mapError f = .error (f e) := rfl

/-- Carries out an evaluation and hands on its failure as an answer. -/
def attempt (x : Eval α) : Eval (Except Failure α) := fun c =>
  let o := x c
  ⟨.ok o.result, o.cache, o.events⟩

/-- The compiled form of a pattern, from the store if it is there. -/
def pattern (text : String) : Eval Pattern := fun c =>
  match c.request text with
  | (some p, c) => ⟨.ok p, c, []⟩
  | (none, c) => ⟨.error (.of (.pattern text)), c, []⟩

end Eval

/-! ## Operands -/

/-- What is known of an argument before it is evaluated. -/
structure Static where
  datatype : Datatype
  value? : Option Value

/-- An argument of a call: what is known of it, and its evaluation. -/
structure Operand extends Static where
  eval : Eval Value

namespace Eval

/-- Evaluates to a single value. -/
def single (x : Eval Value) : Eval AttributeValue := do
  match ← x with
  | .single v => ok v
  | other => fail (.of (.expectedValue other.datatype))

/-- Evaluates to a bag. -/
def bag (x : Eval Value) : Eval Bag := do
  match ← x with
  | .bag b => ok b
  | other => fail (.of (.expectedBag other.datatype))

end Eval

def Expr.static (e : Expr) : Static := ⟨e.datatype, e.value?⟩

end Xacml
