/-
Conditions: boolean expressions that gate a rule. A verdict has three values; the third is a
failure.
-/
import Xacml.Evaluation.Expr

namespace Xacml

/-- A condition is an expression that declares a boolean. -/
structure Condition where
  expression : Expr
  declared : expression.datatype = .boolean

inductive Verdict where
  | true
  | false
  | indeterminate (failure : Failure)
deriving DecidableEq

def Verdict.text : Verdict → String
  | .true => "true"
  | .false => "false"
  | .indeterminate _ => "indeterminate"

def Verdict.isTrue : Verdict → Bool
  | .true => Bool.true
  | _ => Bool.false

def Verdict.isIndeterminate : Verdict → Bool
  | .indeterminate _ => Bool.true
  | _ => Bool.false

namespace Condition

def ofExpr (e : Expr) : Except BuildError Condition :=
  if h : e.datatype = .boolean then .ok ⟨e, h⟩ else .error (.condition e.datatype)

def eval (ctx : Option Context) (c : Condition) : Eval Bool := do
  match ← c.expression.evalSingle ctx with
  | .boolean b => Eval.ok b
  | v => Eval.fail (.of (.condition v.type))

/-- The verdict that an evaluation leads to. -/
def verdict : Except Failure Bool → Verdict
  | .ok Bool.true => .true
  | .ok Bool.false => .false
  | .error e => .indeterminate e

end Condition

end Xacml
