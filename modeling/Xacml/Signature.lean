/-
Parameter lists of first-order functions. A variadic function takes its last parameter any number of
times, or not at all; `accepts` is the language of argument lists that this means, and `check` is
the check of a call against it, which names the first thing wrong.
-/
import Xacml.BuildError

namespace Xacml

structure Signature where
  parameters : List Datatype
  variadic : Bool
deriving DecidableEq, Repr

namespace Signature

def fixed (parameters : List Datatype) : Signature := ⟨parameters, false⟩

def variadicOf (parameters : List Datatype) : Signature := ⟨parameters, true⟩

/-! ## The accepted argument lists -/

/-- The least number of arguments. -/
def minArity (s : Signature) : Nat :=
  if s.variadic then s.parameters.length - 1 else s.parameters.length

def arity (s : Signature) : Arity :=
  if s.variadic then .atLeast s.minArity else .exactly s.parameters.length

def acceptsArity (s : Signature) (count : Nat) : Bool :=
  if s.variadic then s.minArity ≤ count else count == s.parameters.length

/-- The type of the parameter at a position. -/
def parameter? (s : Signature) (index : Nat) : Option Datatype :=
  match s.parameters[index]? with
  | some t => some t
  | none => if s.variadic then s.parameters.getLast? else none

/-- An accepted list is the parameters themselves or, for a variadic signature, the parameters
without the last and then the last any number of times. -/
def Accepts (s : Signature) (types : List Datatype) : Prop :=
  if s.variadic then
    ∃ last ∈ s.parameters.getLast?, ∃ n : Nat,
      types = s.parameters.dropLast ++ List.replicate n last
  else types = s.parameters

/-! ## Checking a call -/

/-- Compares argument types with the parameters from position `index` on. -/
def checkTypes (s : Signature) (function : String) (count : Nat) :
    Nat → List Datatype → Except BuildError (List Datatype)
  | _, [] => .ok []
  | index, got :: rest =>
    match s.parameter? index with
    | none => .error (.arity function s.arity count)
    | some expected =>
      if expected = got then (checkTypes s function count (index + 1) rest).map (expected :: ·)
      else .error (.argumentType function index expected got)

/-- Checks the types of arguments and of the values that will follow them when the call is
evaluated; gives the type of every position. -/
def check (s : Signature) (function : String) (arguments : List Datatype)
    (remaining : List AttributeType) : Except BuildError (List Datatype) :=
  let types := arguments ++ remaining.map .value
  if s.acceptsArity types.length then s.checkTypes function types.length 0 types
  else .error (.arity function s.arity types.length)

/-! ## Shape -/

/-- The layout of the parameters, if a first-order function can have them. -/
def shape (s : Signature) : Except SignatureFault ArgumentShape :=
  match s.parameters with
  | [] => .error .noParameter
  | first :: rest =>
    if s.parameters.contains .function then .error .functionParameter
    else if s.parameters.all Datatype.isBag then .ok .bags
    else if s.parameters.any Datatype.isBag then
      if (s.parameters.dropWhile fun t => !t.isBag).all Datatype.isBag then .ok .valuesThenBags
      else .error .valueAfterBag
    else match first with
      | .value t => .ok (if rest.all (· == first) then .uniform t else .mixed)
      | _ => .ok .mixed

end Signature

end Xacml
