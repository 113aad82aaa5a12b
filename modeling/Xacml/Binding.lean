/-
Checks that a function fits its arguments, made once when a call is built. They look only at what
is known of an argument before it is evaluated. A call that passes can be evaluated any number of
times; a constant pattern in it is known to be one.
-/
import Xacml.Evaluation.Combinator

namespace Xacml

/-! ## First-order functions -/

/-- Checks a call of a first-order function; `remaining` are the types of the values that will only
be given when the call is evaluated. -/
def FirstOrder.bind (f : FirstOrderFunction) (operands : List Static)
    (remaining : List AttributeType) : Except BuildError Unit := do
  let _ ← f.signature.check f.id (operands.map Static.datatype) remaining
  match f.body with
  | .matching =>
    match constantPattern? operands with
    | some p => if (Pattern.compile? p).isSome then .ok () else .error (.pattern p)
    | none => .ok ()
  | .declaredOnly => .error (.arguments f.id (.refused operands.length remaining.length))
  | .kernel _ _ | .connective _ => .ok ()

/-! ## Combinators -/

namespace Arity

def admits : Arity → Nat → Bool
  | exactly n, count => count == n
  | atLeast n, count => n ≤ count

end Arity

namespace Combinator

/-- How many arguments a combinator takes, the function included. -/
def arity : Combinator → Arity
  | .allOfAny | .anyOfAll | .allOfAll => .exactly 3
  | .anyOf | .allOf | .anyOfAny | .map => .atLeast 2

/-- The function to apply: the constant value of the first argument. -/
def applied (c : Combinator) (first : Static) : Except BuildError FirstOrderFunction :=
  match first.value? with
  | some (.function (.firstOrder g)) => .ok g
  | some (.function g) => .error (.subFunction c.id g.id .notFirstOrder)
  | _ => .error (.subFunctionNotConstant c.id)

/-- The function must answer with a boolean, or with any single value for `map`. -/
def checkReturns (c : Combinator) (g : FirstOrderFunction) : Except BuildError Unit :=
  match c with
  | .map =>
    if g.returns.type?.isSome then .ok ()
    else .error (.subFunction c.id g.id (.notSingle g.returns))
  | _ =>
    if g.returns = .boolean then .ok ()
    else .error (.subFunction c.id g.id (.notBoolean g.returns))

/-- None of the arguments after the function may be a function, from position `index` on. -/
def checkNoFunction (c : Combinator) : Nat → List Static → Except BuildError Unit
  | _, [] => .ok ()
  | index, x :: rest =>
    if x.datatype = .function then .error (.arguments c.id (.isFunction index))
    else checkNoFunction c (index + 1) rest

/-- All of the arguments after the function must be bags, from position `index` on. -/
def checkBags (c : Combinator) : Nat → List Static → Except BuildError Unit
  | _, [] => .ok ()
  | index, x :: rest =>
    if x.datatype.isBag then checkBags c (index + 1) rest
    else .error (.arguments c.id (.notBag index x.datatype))

/-- Exactly one of the arguments after the function must be a bag. -/
def checkOneBag (c : Combinator) (operands : List Static) : Except BuildError Unit :=
  let count := operands.countP (·.datatype.isBag)
  if count = 1 then .ok () else .error (.arguments c.id (.bagCount count))

/-- Checks a call of a combinator, and with it the calls that it will make. -/
def bind (c : Combinator) (arguments : List Static) : Except BuildError Unit :=
  match c.arity.admits arguments.length, arguments with
  | true, first :: operands => do
    let g ← c.applied first
    c.checkReturns g
    c.checkNoFunction 1 operands
    match c with
    | .anyOf | .allOf | .map =>
      c.checkOneBag operands
      g.bind (operands.takeWhile Static.isBindable)
        ((operands.dropWhile Static.isBindable).filterMap Static.element?)
    | .anyOfAny => g.bind [] (operands.filterMap Static.element?)
    | .allOfAny | .anyOfAll | .allOfAll =>
      c.checkBags 1 operands
      g.bind [] (operands.filterMap Static.element?)
  | _, _ => .error (.arity c.id c.arity arguments.length)

end Combinator

/-- Checks a call of a function of either order. Combinators take no values at evaluation. -/
def Callable.bind (f : Function) (operands : List Static) (remaining : List AttributeType) :
    Except BuildError Unit :=
  match f with
  | .firstOrder g => g.bind operands remaining
  | .combinator c => c.bind operands

end Xacml
