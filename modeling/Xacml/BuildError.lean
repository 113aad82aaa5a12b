/-
Errors of building expressions, calls, functions and settings. A policy that is not well formed is
refused here and is never evaluated.
-/
import Xacml.AttributeValue
import Xacml.Shape

namespace Xacml

/-- How many arguments a function takes. -/
inductive Arity where
  | exactly (n : Nat)
  | atLeast (n : Nat)
deriving DecidableEq, Repr

def Arity.text : Arity → String
  | .exactly n => toString n
  | .atLeast n => s!"at least {n}"

/-- What is wrong with a list of arguments beyond their number and types. -/
inductive ArgumentFault where
  | isFunction (index : Nat)
  | bagCount (count : Nat)
  | notBag (index : Nat) (got : Datatype)
  | refused (arguments remaining : Nat)
deriving DecidableEq, Repr

def ArgumentFault.text : ArgumentFault → String
  | .isFunction i => s!"arg #{i} is a function"
  | .bagCount n => s!"expected exactly one bag arg, got {n}"
  | .notBag i got => s!"arg #{i} must be a bag, got {got}"
  | .refused n m => s!"refused: {n} args, {m} remaining"

/-- What is wrong with the function handed to a combinator. -/
inductive SubFunctionFault where
  | notFirstOrder
  | notSingle (returns : Datatype)
  | notBoolean (returns : Datatype)
deriving DecidableEq, Repr

def SubFunctionFault.text : SubFunctionFault → String
  | .notFirstOrder => "not a first-order function"
  | .notSingle returns => s!"must return a single value, returns {returns}"
  | .notBoolean returns => s!"must return a boolean, returns {returns}"

/-- What is wrong with the declaration of a function. -/
inductive SignatureFault where
  | returnsFunction
  | noParameter
  | functionParameter
  | valueAfterBag
  | implementation (kind : KernelKind) (shape : ArgumentShape)
deriving DecidableEq, Repr

def SignatureFault.text : SignatureFault → String
  | .returnsFunction => "a first-order function cannot return a function"
  | .noParameter => "no parameter"
  | .functionParameter => "function parameter in a first-order function"
  | .valueAfterBag => "single value parameter after a bag"
  | .implementation kind shape => kind.name ++ " implementation for " ++ shape.tag ++ " parameters"

inductive BuildError where
  | arity (function : String) (expected : Arity) (got : Nat)
  | argumentType (function : String) (index : Nat) (expected got : Datatype)
  | arguments (function : String) (fault : ArgumentFault)
  | unknownFunction (id : String)
  | duplicateFunction (id : String)
  | unknownVariable (id : String)
  | duplicateVariable (id : String)
  | subFunctionNotConstant (function : String)
  | subFunction (function sub : String) (fault : SubFunctionFault)
  | variableDepth (id : String) (depth limit : Nat)
  | literal (type : AttributeType) (text : String) (fault : AttributeValue.LexicalFault)
  | pattern (text : String)
  | signature (function : String) (fault : SignatureFault)
  | condition (got : Datatype)
  | path (reason : String)
  | pathsDisabled
  | noPathCompiler
  | cacheCapacity (capacity limit : Nat)
  | settingsText
deriving DecidableEq

namespace BuildError

/-- The message; `refusal` is how the reader of patterns puts its refusal of a text. -/
def message (refusal : String → String) : BuildError → String
  | arity f expected got =>
    s!"Invalid number of arguments for function '{f}': expected " ++ expected.text ++
      s!", got {got}"
  | argumentType f i expected got =>
    s!"Invalid arg #{i} for function '{f}': expected datatype {expected}, got {got}"
  | arguments f fault => s!"Invalid arguments for function '{f}': " ++ fault.text
  | unknownFunction id => s!"Unknown function: {id}"
  | duplicateFunction id => s!"Function already registered: {id}"
  | unknownVariable id => s!"Unknown variable: {id}"
  | duplicateVariable id => s!"Variable already defined: {id}"
  | subFunctionNotConstant f =>
    s!"Invalid first arg for higher-order function '{f}': not a statically defined function"
  | subFunction f sub fault =>
    s!"Invalid sub-function '{sub}' for higher-order function '{f}': " ++ fault.text
  | variableDepth id depth limit =>
    s!"Variable '{id}' has a reference chain of length {depth}, exceeding the maximum {limit}"
  | literal t text fault => s!"Invalid {t} literal '" ++ text ++ "': " ++ fault.message
  | pattern text => "Invalid regex: " ++ refusal text
  | signature f fault => s!"Invalid signature for function '{f}': " ++ fault.text
  | condition got => s!"Invalid expression: condition must be of type boolean, got {got}"
  | path reason => s!"Invalid expression: {reason}"
  | pathsDisabled => "Unsupported: attribute selectors require enable_xpath"
  | noPathCompiler => "Unsupported: no XPath compiler configured"
  | cacheCapacity n limit =>
    s!"Configuration error: regex_cache_capacity {n} exceeds the maximum {limit}"
  | settingsText => "Configuration error: malformed settings"

end BuildError

end Xacml
