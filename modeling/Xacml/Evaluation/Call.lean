/-
Calls of first-order functions. A call has operands, and the types of values that are only given
when it is evaluated; those follow the operands. A kernel runs once every argument has been
evaluated, from left to right. The connectives stop as soon as the answer is decided: a failing
argument does not end them, and its failure is the answer only if nothing else decides.
-/
import Xacml.Evaluation.Basic

namespace Xacml

/-! ## Given values -/

/-- Checks given values against types, from position `index` on. -/
def checkGivenFrom (function : String) : Nat → List AttributeType → List AttributeValue →
    Except Failure Unit
  | index, t :: types, v :: values =>
    if v.type = t then checkGivenFrom function (index + 1) types values
    else .error (.of (.remainingType function index t v.type))
  | _, _, _ => .ok ()

/-- Checks given values against the types that were declared for them. -/
def checkGiven (function : String) (types : List AttributeType) (given : List AttributeValue) :
    Except Failure Unit :=
  if types.length = given.length then checkGivenFrom function 0 types given
  else .error (.of (.remainingCount function types.length given.length))

/-! ## Kernels -/

/-- Evaluates operands from left to right, from position `index` on: to bags where the parameter is
a bag, to single values elsewhere. -/
def evaluateArguments (f : FirstOrderFunction) : Nat → List Operand → Eval Arguments
  | _, [] => .ok ⟨[], []⟩
  | index, x :: rest => do
    if (f.signature.parameter? index).any Datatype.isBag then
      let b ← x.eval.bag.mapFailure (.inArgument f.id index)
      let others ← evaluateArguments f (index + 1) rest
      return { others with bags := b :: others.bags }
    else
      let v ← x.eval.single.mapFailure (.inArgument f.id index)
      let others ← evaluateArguments f (index + 1) rest
      return { others with values := v :: others.values }

/-- Evaluates every argument and runs the kernel. -/
def runKernel (f : FirstOrderFunction) (kernel : Arguments → Except Failure Value)
    (operands : List Operand) (types : List AttributeType) (given : List AttributeValue) :
    Eval Value := do
  Eval.done (checkGiven f.id types given)
  let evaluated ← evaluateArguments f 0 operands
  let arguments : Arguments := { evaluated with values := evaluated.values ++ given }
  Eval.note (.kernel f.id arguments)
  (Eval.done (kernel arguments)).mapFailure (.wrap (.body f.id))

/-! ## Single arguments by position -/

/-- The single value at a position, among the operands or the given values after them. -/
def valueAt (function : String) (operands : List Operand) (given : List AttributeValue)
    (index : Nat) : Eval AttributeValue :=
  match operands[index]? with
  | some x => x.eval.single.mapFailure (.inArgument function index)
  | none =>
    match given[index - operands.length]? with
    | some v => .ok v
    | none => .fail (.of (.noArgument function index))

/-- The boolean at a position. -/
def booleanAt (function : String) (operands : List Operand) (given : List AttributeValue)
    (index : Nat) : Eval Bool := do
  match ← valueAt function operands given index with
  | .boolean b => Eval.ok b
  | v => Eval.fail (.inArgument function index (.of (.cast .boolean (.value v.type))))

/-! ## Connectives -/

/-- Evaluates until a boolean is `decisive`, which is then the answer. `failure` is the first
failure so far. -/
def untilDecisive (decisive : Bool) : Option Failure → List (Eval Bool) → Eval Bool
  | some e, [] => .fail e
  | none, [] => .ok !decisive
  | failure, x :: rest => do
    match ← x.attempt with
    | .ok b => if b = decisive then Eval.ok decisive else untilDecisive decisive failure rest
    | .error e => untilDecisive decisive (failure <|> some e) rest

/-- Evaluates until `needed` more booleans have been true, or until too few are left: those not yet
evaluated and the `failures` so far might all have been true. -/
def untilReached : Nat → Nat → Option Failure → List (Eval Bool) → Eval Bool
  | _, _, some e, [] => .fail e
  | _, _, none, [] => .ok false
  | needed, failures, failure, x :: rest => do
    let outcome ← x.attempt
    let needed := match outcome with
      | .ok true => needed - 1
      | _ => needed
    let (failures, failure) := match outcome with
      | .error e => (failures + 1, failure <|> some e)
      | _ => (failures, failure)
    if needed = 0 then Eval.ok true
    else if failures + rest.length < needed then Eval.ok false
    else untilReached needed failures failure rest

theorem untilDecisive_cons (decisive : Bool) (failure : Option Failure) (x : Eval Bool)
    (rest : List (Eval Bool)) :
    untilDecisive decisive failure (x :: rest) = x.attempt >>= fun
      | .ok b => if b = decisive then Eval.ok decisive else untilDecisive decisive failure rest
      | .error e => untilDecisive decisive (failure <|> some e) rest := by
  cases failure <;> rfl

theorem untilReached_cons (needed failures : Nat) (failure : Option Failure) (x : Eval Bool)
    (rest : List (Eval Bool)) :
    untilReached needed failures failure (x :: rest) = x.attempt >>= fun
      | .ok true =>
        if needed - 1 = 0 then Eval.ok true
        else if failures + rest.length < needed - 1 then Eval.ok false
        else untilReached (needed - 1) failures failure rest
      | .ok false =>
        if needed = 0 then Eval.ok true
        else if failures + rest.length < needed then Eval.ok false
        else untilReached needed failures failure rest
      | .error e =>
        if needed = 0 then Eval.ok true
        else if failures + 1 + rest.length < needed then Eval.ok false
        else untilReached needed (failures + 1) (failure <|> some e) rest := by
  cases failure <;>
  · rw [untilReached]
    congr 1
    funext outcome
    rcases outcome with e | (_ | _) <;> rfl

/-- Whether at least as many arguments are true as the first argument says; `count` is the number of
arguments. -/
def runNOf (function : String) (operands : List Operand) (count : Nat)
    (given : List AttributeValue) : Eval Bool := do
  match ← valueAt function operands given 0 with
  | .integer n =>
    let candidates := count - 1
    if n.toInt < 0 then Eval.fail (.of (.negativeCount function n.toInt))
    else if candidates < n.toInt.toNat then
      Eval.fail (.of (.tooFewArguments function n.toInt.toNat candidates))
    else if n.toInt = 0 then Eval.ok true
    else
      untilReached n.toInt.toNat 0 none
        ((List.range candidates).map fun i => booleanAt function operands given (i + 1))
  | v => Eval.fail (.inArgument function 0 (.of (.cast .integer (.value v.type))))

/-- The answer of a connective over `count` arguments. -/
def runConnective (c : Connective) (function : String) (operands : List Operand) (count : Nat)
    (given : List AttributeValue) : Eval Bool :=
  let booleans := (List.range count).map (booleanAt function operands given)
  match c with
  | .or => untilDecisive true none booleans
  | .and => untilDecisive false none booleans
  | .nOf => runNOf function operands count given

/-! ## Patterns -/

/-- The constant pattern of a call, known before it is evaluated. -/
def constantPattern? (operands : List Static) : Option String :=
  match operands.head?.bind (·.value?) with
  | some (.single (.string p)) => some p
  | _ => none

/-- The compiled pattern of a call. A constant one has been compiled when the call was built; any
other is evaluated and goes through the store. -/
def callPattern (function : String) (operands : List Operand) (given : List AttributeValue) :
    Eval Pattern :=
  match constantPattern? (operands.map Operand.toStatic) with
  | some p =>
    match Pattern.compile? p with
    | some compiled => .ok compiled
    | none => .fail (.of (.pattern p))
  | none => do
    match ← valueAt function operands given 0 with
    | .string p => Eval.pattern p
    | _ => Eval.fail (.of (.patternType function))

/-- Whether the pattern occurs in the subject. -/
def runMatching (function : String) (operands : List Operand) (given : List AttributeValue) :
    Eval Bool := do
  let pattern ← callPattern function operands given
  match ← valueAt function operands given 1 with
  | .string s => Eval.ok (pattern.occursIn s.toList)
  | .anyURI s => Eval.ok (pattern.occursIn s.toList)
  | v => Eval.fail (.of (.subjectType function v.type))

/-! ## Calls -/

/-- Evaluates a call of a first-order function. -/
def FirstOrder.run (f : FirstOrderFunction) (operands : List Operand) (types : List AttributeType)
    (given : List AttributeValue) : Eval Value :=
  match f.body with
  | .kernel _ kernel => runKernel f kernel operands types given
  | .connective c => do
    return .ofBool (← runConnective c f.id operands (operands.length + types.length) given)
  | .matching => do return .ofBool (← runMatching f.id operands given)
  | .declaredOnly => .fail (.of (.unbound f.id))

end Xacml
