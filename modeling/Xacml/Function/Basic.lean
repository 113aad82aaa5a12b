/-
Values of expressions, and the functions among them. A first-order function has a parameter list and
a body; most bodies are kernels, which compute an answer from evaluated arguments. Combinators apply
a first-order function across bags. A function is itself a value, so that it can be handed to a
combinator.
-/
import Xacml.Bag.Basic
import Xacml.Signature

namespace Xacml

/-! ## Functions over a type of values -/

/-- The evaluated arguments of a kernel, in parameter order: single values come before bags. -/
structure Arguments where
  values : List AttributeValue
  bags : List Bag
deriving DecidableEq

/-- The connectives that evaluate their arguments lazily. -/
inductive Connective where
  | or
  | and
  | nOf
deriving DecidableEq, Repr

/-- The body of a first-order function whose answers are of type `V`. -/
inductive Body (V : Type) where
  /-- Evaluates every argument, then runs the kernel. -/
  | kernel (kind : KernelKind) (run : Arguments → Except Failure V)
  /-- Evaluates arguments only until the answer is decided. -/
  | connective (c : Connective)
  /-- Matches a text with a pattern. -/
  | matching
  /-- Declared, but its calls are all refused. -/
  | declaredOnly

/-- A first-order function whose answers are of type `V`. -/
structure FirstOrder (V : Type) where
  id : String
  returns : Datatype
  signature : Signature
  body : Body V

/-- The combinators, which apply a function across bags. -/
inductive Combinator where
  | anyOf
  | allOf
  | anyOfAny
  | allOfAny
  | anyOfAll
  | allOfAll
  | map
deriving DecidableEq, Repr

namespace Combinator

def all : List Combinator := [.anyOf, .allOf, .anyOfAny, .allOfAny, .anyOfAll, .allOfAll, .map]

def id : Combinator → String
  | .anyOf => "urn:oasis:names:tc:xacml:3.0:function:any-of"
  | .allOf => "urn:oasis:names:tc:xacml:3.0:function:all-of"
  | .anyOfAny => "urn:oasis:names:tc:xacml:3.0:function:any-of-any"
  | .allOfAny => "urn:oasis:names:tc:xacml:1.0:function:all-of-any"
  | .anyOfAll => "urn:oasis:names:tc:xacml:1.0:function:any-of-all"
  | .allOfAll => "urn:oasis:names:tc:xacml:1.0:function:all-of-all"
  | .map => "urn:oasis:names:tc:xacml:3.0:function:map"

/-- The datatype of every answer, unless it depends on the function that is applied. -/
def returns? : Combinator → Option Datatype
  | .map => none
  | _ => some .boolean

end Combinator

/-- A function of either order. -/
inductive Callable (V : Type) where
  | firstOrder (f : FirstOrder V)
  | combinator (c : Combinator)

/-! ## Values -/

/-- What an expression evaluates to. -/
inductive Value where
  | single (v : AttributeValue)
  | bag (b : Bag)
  | function (f : Callable Value)

abbrev FirstOrderFunction := FirstOrder Value

abbrev Function := Callable Value

instance : Inhabited Value := ⟨.single default⟩

namespace Callable

variable {V : Type}

def id : Callable V → String
  | .firstOrder f => f.id
  | .combinator c => c.id

/-- The datatype of every answer, unless it depends on the arguments. -/
def returns? : Callable V → Option Datatype
  | .firstOrder f => some f.returns
  | .combinator c => c.returns?

end Callable

namespace Value

def ofBool (b : Bool) : Value := .single (.boolean b)

def datatype : Value → Datatype
  | .single v => .value v.type
  | .bag b => .bag b.element
  | .function _ => .function

def bool? : Value → Option Bool
  | .single (.boolean b) => some b
  | _ => none

def text : Value → String
  | .single v => v.text
  | .bag b => b.text
  | .function f => f.id

/-- Hands a value on if it has the datatype; nothing is ever converted. -/
def checked (d : Datatype) (v : Value) : Except Failure Value :=
  if v.datatype = d then .ok v else .error (.of (.cast d v.datatype))

end Value

/-- The text of each argument, in parameter order. -/
def Arguments.texts (a : Arguments) : List String :=
  a.values.map AttributeValue.text ++ a.bags.map Bag.text

namespace FirstOrder

variable {V : Type}

/-- Whether a function can be declared so: it does not return a function, its parameters have a
layout, and a kernel is of the kind that suits the layout. -/
def validate (f : FirstOrder V) : Except BuildError ArgumentShape :=
  if f.returns = .function then .error (.signature f.id .returnsFunction)
  else match f.signature.shape, f.body with
    | .error fault, _ => .error (.signature f.id fault)
    | .ok shape, .kernel kind _ =>
      if kind = .ofShape shape then .ok shape
      else .error (.signature f.id (.implementation kind shape))
    | .ok shape, _ => .ok shape

end FirstOrder

end Xacml
