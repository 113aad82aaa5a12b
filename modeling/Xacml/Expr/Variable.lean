/-
Defined variables. A definition may refer to the variables defined before it, so references form
chains; the chain of a variable is the length of the longest, and a table may limit it. Removing a
variable does not touch the references made to it, which hold its definition.
-/
import Xacml.Expr.Basic

namespace Xacml

structure Variable where
  id : String
  definition : Expr
  chain : Nat

/-- The expression that refers to a variable. -/
def Variable.reference (v : Variable) : Expr := .reference v.id v.definition v.chain

namespace Expr

/-- One more than the longest chain among the variables that an expression refers to; zero if it
refers to none. -/
def chain (e : Expr) : Nat := (e.references.map fun r => r.2 + 1).foldl max 0

end Expr

structure VariableTable where
  /-- The longest chain that a definition may have. -/
  limit : Option Nat
  entries : List Variable

namespace VariableTable

def empty (limit : Option Nat) : VariableTable := ⟨limit, []⟩

def find? (t : VariableTable) (id : String) : Option Variable := t.entries.find? (·.id == id)

def contains (t : VariableTable) (id : String) : Bool := (t.find? id).isSome

def get (t : VariableTable) (id : String) : Except BuildError Variable :=
  match t.find? id with
  | some v => .ok v
  | none => .error (.unknownVariable id)

/-- Defines a variable under a new identifier. -/
def define (t : VariableTable) (id : String) (definition : Expr) :
    Except BuildError VariableTable :=
  if t.contains id then .error (.duplicateVariable id)
  else match t.limit.filter (· < definition.chain) with
    | some limit => .error (.variableDepth id definition.chain limit)
    | none => .ok { t with entries := ⟨id, definition, definition.chain⟩ :: t.entries }

/-- Drops a variable. -/
def remove (t : VariableTable) (id : String) : VariableTable :=
  { t with entries := t.entries.filter (·.id != id) }

end VariableTable

end Xacml
