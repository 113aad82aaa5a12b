/-
The leaves of a tree, from left to right. A reference to a variable counts as the variable's
definition wherever it occurs, and so does an expression that is used in several places.
-/
import Xacml.Expr.Basic

namespace Xacml.Expr

/-- Induction on a tree, with the hypothesis for every argument of an application. -/
theorem induction {P : Expr → Prop} (constant : ∀ v, P (.constant v)) (leaf : ∀ l, P (.leaf l))
    (reference : ∀ id definition chain, P definition → P (.reference id definition chain))
    (apply : ∀ f arguments, (∀ e ∈ arguments, P e) → P (.apply f arguments)) (e : Expr) : P e :=
  @Expr.rec P (fun es => ∀ e ∈ es, P e) constant leaf reference apply (List.forall_mem_nil _)
    (fun _ _ he hes => List.forall_mem_cons.2 ⟨he, hes⟩) e

mutual

def leaves (e : Expr) : List Leaf :=
  match e with
  | constant _ => []
  | leaf l => [l]
  | reference _ definition _ => leaves definition
  | apply _ arguments => leavesOfAll arguments
termination_by structural e

def leavesOfAll (es : List Expr) : List Leaf :=
  match es with
  | [] => []
  | e :: rest => leaves e ++ leavesOfAll rest
termination_by structural es

end

@[simp] theorem leavesOfAll_nil : leavesOfAll [] = [] := by rw [leavesOfAll]

@[simp] theorem leavesOfAll_cons (e : Expr) (rest : List Expr) :
    leavesOfAll (e :: rest) = leaves e ++ leavesOfAll rest := by rw [leavesOfAll]

theorem leavesOfAll_eq (es : List Expr) : leavesOfAll es = es.flatMap leaves := by
  induction es with
  | nil => simp
  | cons e rest ih => simp [ih]

/-- A tree whose value is known has no leaves. -/
theorem leaves_of_value? {e : Expr} {v : Value} (h : e.value? = some v) : e.leaves = [] := by
  induction e using Expr.induction with
  | constant _ => rw [leaves]
  | leaf _ => cases h
  | reference _ _ _ ih =>
    rw [leaves]
    exact ih h
  | apply _ _ _ => cases h

/-- An expression whose value is known declares the datatype of that value. -/
theorem datatype_of_value? {e : Expr} {v : Value} (h : e.value? = some v) :
    e.datatype = v.datatype := by
  induction e using Expr.induction with
  | constant w => cases h; rfl
  | leaf l => cases h
  | reference _ definition _ ih => exact ih h
  | apply f arguments _ => cases h

end Xacml.Expr
