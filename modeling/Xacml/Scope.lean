/-
Scopes: what expressions are built in and evaluated against. A scope knows functions and variables
by their identifiers, and keeps the store of compiled patterns from one evaluation to the next.
Everything built in a scope has been checked.
-/
import Xacml.Binding
import Xacml.Condition
import Xacml.Expr.Variable
import Xacml.Function.Table
import Xacml.Library.Standard
import Xacml.Settings

namespace Xacml

/-- The version of the library. -/
def version : String := "0.1.0"

structure Scope where
  settings : Settings
  functions : FunctionTable
  definitions : VariableTable
  patterns : Pattern.Cache
  /-- Makes location paths ready for use. -/
  pathCompiler : Option (String → Except BuildError Path)

namespace Scope

/-- The scope of the standard library under some settings. -/
def ofSettings (settings : Settings) : Except BuildError Scope :=
  settings.validate.map fun settings =>
    { settings
      functions := ⟨Library.standard⟩
      definitions := .empty settings.variableDepth
      patterns := .empty settings.patternCapacity
      pathCompiler := none }

/-- The scope with other functions, and with a new store of patterns for them. -/
def withFunctions (s : Scope) (functions : FunctionTable) (patternCapacity : Nat) : Scope :=
  { s with functions, patterns := .empty patternCapacity }

/-! ## Building expressions -/

/-- A constant written in the lexical form of a type. -/
def literal (type : AttributeType) (lexical : String) : Except BuildError AttributeValue :=
  (AttributeValue.read type lexical).mapError (.literal type lexical)

/-- A function as a value. -/
def function (s : Scope) (id : String) : Except BuildError Expr :=
  (s.functions.get id).map fun f => .constant (.function f)

/-- The application of a function to arguments. -/
def apply (s : Scope) (id : String) (arguments : List Expr) : Except BuildError Expr := do
  let f ← s.functions.get id
  f.bind (arguments.map Expr.static) []
  return .apply f arguments

/-- A selector of texts at a location. -/
def selector (s : Scope) (category path : String) (contextSelector : Option String)
    (type : AttributeType) (mustBePresent : Bool) : Except BuildError Expr :=
  if !s.settings.selectors then .error .pathsDisabled
  else match s.pathCompiler with
    | none => .error .noPathCompiler
    | some compile => do
      let path ← compile path
      return .leaf (.selector { category, path, contextSelector, type, mustBePresent })

/-- A reference to a variable. -/
def reference (s : Scope) (id : String) : Except BuildError Expr :=
  (s.definitions.get id).map Variable.reference

/-! ## Changing a scope -/

def define (s : Scope) (id : String) (definition : Expr) : Except BuildError Scope :=
  (s.definitions.define id definition).map fun definitions => { s with definitions }

def remove (s : Scope) (id : String) : Scope := { s with definitions := s.definitions.remove id }

/-- Adds a function; it must be one that can be declared, and its identifier new. -/
def declare (s : Scope) (f : FirstOrderFunction) : Except BuildError Scope := do
  let _ ← f.validate
  let functions ← s.functions.add (.firstOrder f)
  return { s with functions }

/-! ## Evaluating -/

/-- Carries out an evaluation: its outcome, and the scope with the store of patterns as it was
left. -/
def run {α : Type} (s : Scope) (x : Eval α) : Outcome α × Scope :=
  let outcome := x s.patterns
  (outcome, { s with patterns := outcome.cache })

end Scope

end Xacml
