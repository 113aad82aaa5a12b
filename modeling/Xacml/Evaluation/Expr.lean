/-
Evaluating expressions. Constants answer with their value and references to variables as their
definition does; applications hand their arguments, unevaluated, to the function.
-/
import Xacml.Evaluation.Combinator
import Xacml.Evaluation.Leaf

namespace Xacml.Expr

mutual

/-- Evaluates an expression in a context, or without one. -/
def eval (ctx : Option Context) (e : Expr) : Eval Value :=
  match e with
  | constant v => .ok v
  | leaf l => l.eval ctx
  | reference _ definition _ => eval ctx definition
  | apply f arguments => f.run (operands ctx arguments) [] []
termination_by structural e

/-- Expressions as arguments of a call. -/
def operands (ctx : Option Context) (es : List Expr) : List Operand :=
  match es with
  | [] => []
  | e :: rest => ⟨e.static, eval ctx e⟩ :: operands ctx rest
termination_by structural es

end

/-- An expression as an argument of a call. -/
def operand (ctx : Option Context) (e : Expr) : Operand := ⟨e.static, eval ctx e⟩

theorem operands_eq (ctx : Option Context) (es : List Expr) :
    operands ctx es = es.map (operand ctx) := by
  induction es with
  | nil => simp [operands]
  | cons e rest ih => simp [operands, operand, ih]

theorem eval_apply (ctx : Option Context) (f : Function) (arguments : List Expr) :
    (apply f arguments).eval ctx = f.run (arguments.map (operand ctx)) [] [] := by
  rw [eval, operands_eq]

/-- Evaluates an expression to a single value. -/
def evalSingle (ctx : Option Context) (e : Expr) : Eval AttributeValue := (e.eval ctx).single

/-- Evaluates an expression to a bag. -/
def evalBag (ctx : Option Context) (e : Expr) : Eval Bag := (e.eval ctx).bag

end Xacml.Expr
