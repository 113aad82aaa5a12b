/-
The functions that expressions may name, each under its own identifier.
-/
import Xacml.BuildError
import Xacml.Function.Basic

namespace Xacml

structure FunctionTable where
  functions : List Function

namespace FunctionTable

def empty : FunctionTable := ⟨[]⟩

def find? (t : FunctionTable) (id : String) : Option Function := t.functions.find? (·.id == id)

def contains (t : FunctionTable) (id : String) : Bool := (t.find? id).isSome

def get (t : FunctionTable) (id : String) : Except BuildError Function :=
  match t.find? id with
  | some f => .ok f
  | none => .error (.unknownFunction id)

/-- Adds a function, whose identifier must be new. -/
def add (t : FunctionTable) (f : Function) : Except BuildError FunctionTable :=
  if t.contains f.id then .error (.duplicateFunction f.id) else .ok ⟨t.functions ++ [f]⟩

def size (t : FunctionTable) : Nat := t.functions.length

/-- Every identifier, in ascending order. -/
def ids (t : FunctionTable) : List String :=
  (t.functions.map Callable.id).mergeSort fun a b => decide (a ≤ b)

end FunctionTable

end Xacml
