/-
Calls of combinators. The first argument is the function to apply, known before evaluation; the
other arguments are evaluated once each, from left to right, before the function is first called.
`any-of`, `all-of` and `map` take one bag among single values, and their leading constants are bound
to the function; the combinators of two bags go through them row by row; `any-of-any` goes through
every combination of its arguments' values, the last position fastest.
-/
import Xacml.Evaluation.Call
import Xacml.Evaluation.Odometer

namespace Xacml

/-! ## Searching -/

namespace Eval

variable {α : Type}

/-- Whether some element passes, tested in order up to the first that does. -/
def any (p : α → Eval Bool) : List α → Eval Bool
  | [] => ok false
  | a :: rest => do if ← p a then ok true else any p rest

/-- Whether every element passes, tested in order up to the first that does not. -/
def all (p : α → Eval Bool) : List α → Eval Bool
  | [] => ok true
  | a :: rest => do if ← p a then all p rest else ok false

/-- The answers for every element, in order. -/
def each {β : Type} (f : α → Eval β) : List α → Eval (List β)
  | [] => ok []
  | a :: rest => do
    let b ← f a
    let others ← each f rest
    return b :: others

end Eval

/-! ## Calling the function -/

/-- The values of constants. -/
def constantValues (operands : List Static) : List AttributeValue :=
  operands.filterMap fun x =>
    match x.value? with
    | some (.single v) => some v
    | _ => none

/-- Calls the function with bound operands and given values. -/
def subCall (g : FirstOrderFunction) (bound : List Operand) (types : List AttributeType)
    (given : List AttributeValue) : Eval Value := do
  Eval.note (.subCall g.id (constantValues (bound.map Operand.toStatic) ++ given))
  g.run bound types given

/-- Calls the function, which must answer with a boolean. -/
def subTest (id : String) (g : FirstOrderFunction) (bound : List Operand)
    (types : List AttributeType) (given : List AttributeValue) : Eval Bool := do
  let answer ← subCall g bound types given
  match answer.bool? with
  | some b => Eval.ok b
  | none => Eval.fail (.of (.notBoolean id answer.datatype))

/-! ## One bag -/

namespace Static

/-- Whether an argument can be bound to the function if all before it are. -/
def isBindable (x : Static) : Bool := !x.datatype.isBag && x.value?.isSome

/-- The type of the values that an argument contributes to each call of the function. -/
def element? (x : Static) : Option AttributeType :=
  match x.datatype with
  | .value t => some t
  | .bag t => some t
  | .function => none

end Static

/-- An evaluated argument: a value that every call gets, or the bag whose elements go in its
place. -/
inductive Slot where
  | value (v : AttributeValue)
  | bag (b : Bag)

namespace Slot

/-- The elements of the bags among the slots. -/
def elements (slots : List Slot) : List AttributeValue :=
  slots.flatMap fun
    | .value _ => []
    | .bag b => b.values

/-- The values of one call: `element` stands where the bag is. -/
def fill (slots : List Slot) (element : AttributeValue) : List AttributeValue :=
  slots.map fun
    | .value v => v
    | .bag _ => element

end Slot

/-- Evaluates the arguments that are not bound, from position `index` on. -/
def evaluateSlots (id : String) : Nat → List Operand → Eval (List Slot)
  | _, [] => .ok []
  | index, x :: rest => do
    let value ← x.eval.mapFailure (.inArgument id index)
    let slot ← match x.datatype.isBag, value with
      | true, .bag b => Eval.ok (Slot.bag b)
      | false, .single v => Eval.ok (Slot.value v)
      | _, other => Eval.fail (.of (.argumentKind id index other.datatype))
    let others ← evaluateSlots id (index + 1) rest
    return slot :: others

/-- Evaluates `any-of`, `all-of` or `map`; `operands` are the arguments after the function. -/
def runOneBag (c : Combinator) (g : FirstOrderFunction) (operands : List Operand) : Eval Value := do
  let bound := operands.takeWhile (·.toStatic.isBindable)
  let runtime := operands.dropWhile (·.toStatic.isBindable)
  let types := runtime.filterMap (·.toStatic.element?)
  let slots ← evaluateSlots c.id (1 + bound.length) runtime
  let elements := Slot.elements slots
  match c with
  | .map =>
    let answers ← Eval.each (fun e => do
      match ← subCall g bound types (Slot.fill slots e) with
      | .single v => Eval.ok v
      | other => Eval.fail (.of (.notSingle c.id other.datatype))) elements
    match g.returns with
    | .value t => return .bag (← Eval.done (Bag.checked t answers))
    | _ => Eval.fail (.of (.unbound c.id))
  | .anyOf =>
    return .ofBool (← Eval.any (fun e => subTest c.id g bound types (Slot.fill slots e)) elements)
  | _ =>
    return .ofBool (← Eval.all (fun e => subTest c.id g bound types (Slot.fill slots e)) elements)

/-! ## Every combination -/

/-- Evaluates arguments to the values that each contributes, from position `index` on. -/
def evaluateDomains (id : String) : Nat → List Operand → Eval (List (List AttributeValue))
  | _, [] => .ok []
  | index, x :: rest => do
    let domain ← match ← x.eval.mapFailure (.inArgument id index) with
      | .single v => Eval.ok [v]
      | .bag b => Eval.ok b.values
      | .function _ => Eval.fail (.of (.argumentKind id index .function))
    let others ← evaluateDomains id (index + 1) rest
    return domain :: others

/-- Evaluates `any-of-any`; `operands` are the arguments after the function. -/
def runEveryCombination (c : Combinator) (g : FirstOrderFunction) (operands : List Operand) :
    Eval Value := do
  let types := operands.filterMap (·.toStatic.element?)
  let domains ← evaluateDomains c.id 1 operands
  match Odometer.start? domains with
  | none => return .ofBool false
  | some o => return .ofBool (← Odometer.search (subTest c.id g [] types) o)

/-! ## Two bags -/

/-- Evaluates a combinator of two bags; `operands` are the arguments after the function. -/
def runTwoBags (c : Combinator) (g : FirstOrderFunction) (operands : List Operand) : Eval Value :=
  match operands with
  | [x, y] => do
    let first ← x.eval.mapFailure (.inArgument c.id 1)
    let second ← y.eval.mapFailure (.inArgument c.id 2)
    match first, second with
    | .bag a, .bag b =>
      let types := operands.filterMap (·.toStatic.element?)
      let test (v w : AttributeValue) := subTest c.id g [] types [v, w]
      let answer ← match c with
        | .allOfAny => Eval.all (fun v => Eval.any (test v) b.values) a.values
        | .anyOfAll => Eval.any (fun v => Eval.all (test v) b.values) a.values
        | _ => Eval.all (fun v => Eval.all (test v) b.values) a.values
      return .ofBool answer
    | _, _ => Eval.fail (.of (.expectedBags c.id))
  | _ => .fail (.of (.unbound c.id))

/-! ## Calls -/

/-- Evaluates a call of a combinator. -/
def Combinator.run (c : Combinator) (operands : List Operand) : Eval Value :=
  match operands with
  | ⟨⟨_, some (.function (.firstOrder g))⟩, _⟩ :: rest =>
    match c with
    | .anyOf | .allOf | .map => runOneBag c g rest
    | .anyOfAny => runEveryCombination c g rest
    | .allOfAny | .anyOfAll | .allOfAll => runTwoBags c g rest
  | _ => .fail (.of (.unbound c.id))

/-- Evaluates a call of a function of either order. -/
def Callable.run (f : Function) (operands : List Operand) (types : List AttributeType)
    (given : List AttributeValue) : Eval Value :=
  match f with
  | .firstOrder g => g.run operands types given
  | .combinator c => c.run operands

end Xacml
