/-
Failures of evaluation, the third outcome beside true and false. A failure is a chain of frames,
the outermost first: each frame names a problem and carries a status, and the last frame is the
problem that started it. Wrapping puts a frame in front and keeps the status.
-/
import Xacml.AttributeValue

namespace Xacml

/-! ## Status -/

inductive Status where
  | missingAttribute
  | syntaxError
  | processingError
deriving DecidableEq, Repr, Inhabited

namespace Status

def all : List Status := [.missingAttribute, .syntaxError, .processingError]

def name : Status → String
  | .missingAttribute => "missing-attribute"
  | .syntaxError => "syntax-error"
  | .processingError => "processing-error"

def urn (s : Status) : String := "urn:oasis:names:tc:xacml:1.0:status:" ++ s.name

def ofName? (s : String) : Option Status := all.find? (·.name == s)

end Status

/-! ## Problems -/

/-- What went wrong. -/
inductive Problem where
  /-- Reported from outside, in the reporter's words. -/
  | reported (message : String)
  -- frames around another failure
  | argument (function : String) (index : Nat)
  | body (function : String)
  | resolution (leaf : String)
  | absent (leaf : String)
  | selection (leaf : String)
  -- a value of a kind that the place does not admit
  | expectedValue (got : Datatype)
  | expectedBag (got : Datatype)
  | cast (expected got : Datatype)
  | representation (type requested : AttributeType)
  | element (index : Nat) (expected got : AttributeType)
  | remainingCount (function : String) (expected got : Nat)
  | remainingType (function : String) (index : Nat) (expected got : AttributeType)
  | noArgument (function : String) (index : Nat)
  | argumentKind (function : String) (index : Nat) (got : Datatype)
  | expectedBags (function : String)
  | notBoolean (function : String) (got : Datatype)
  | notSingle (function : String) (got : Datatype)
  | condition (got : AttributeType)
  | incomparable (left right : AttributeType)
  | notText (got : AttributeType)
  | patternType (function : String)
  | subjectType (function : String) (got : AttributeType)
  | unbound (function : String)
  /-- What a caller vouched for is not so. This is no failure of the policy or the request: it stops the
  program, and nothing is answered. -/
  | assertion (element : AttributeType)
  -- values for which there is no answer
  | tooManyElements (element : AttributeType) (size : Nat)
  | noElement (element : AttributeType)
  | bagSize
  | overflow (operation : String)
  | divisionByZero (operation : String)
  | outOfIntegerRange (value : Double)
  | range (first past : Int) (length : Nat)
  | literal (type : AttributeType) (text : String) (fault : AttributeValue.LexicalFault)
  | pattern (text : String)
  | negativeCount (function : String) (count : Int)
  | tooFewArguments (function : String) (needed given : Nat)
  -- attributes and content
  | noContext (leaf : String)
  | unknownReason (leaf : String)
  | providerType (leaf : String) (got : AttributeType)
  | notInRequest (name : String)
  | noContent (category : String)
  | noContextPath (leaf : String) (name : String)
  | noSource (element : AttributeType)
deriving DecidableEq

namespace Problem

/-- The message; `refusal` is how the reader of patterns puts its refusal of a text. -/
def message (refusal : String → String) : Problem → String
  | reported message => message
  | argument f i => s!"{f}: indeterminate arg #{i}"
  | body f => s!"{f}: evaluation failed"
  | resolution leaf => s!"failed to resolve {leaf}"
  | absent leaf => s!"no value for {leaf} and MustBePresent is true"
  | selection leaf => s!"{leaf}: XPath evaluation failed"
  | expectedValue got => s!"expected an attribute value, got {got}"
  | expectedBag got => s!"expected a bag, got {got}"
  | cast expected got => s!"invalid value type: expected {expected}, got {got}"
  | representation type requested =>
    s!"invalid cast: {type} is not represented by the requested type ({requested})"
  | element i expected got => s!"invalid bag element #{i}: expected {expected}, got {got}"
  | remainingCount f expected got => s!"{f}: expected {expected} remaining args, got {got}"
  | remainingType f i expected got =>
    s!"{f}: invalid remaining arg #{i}: expected {expected}, got {got}"
  | noArgument f i => s!"{f}: no arg #{i}"
  | argumentKind f i got => s!"{f}: arg #{i} is a {got}"
  | expectedBags f => s!"{f}: expected two bags"
  | notBoolean f got => s!"{f}: sub-function returned {got}, expected a boolean"
  | notSingle f got => s!"{f}: sub-function returned {got}"
  | condition got => s!"condition returned {got}, expected a boolean"
  | incomparable left right => s!"cannot compare {left} with {right}"
  | notText got => s!"expected a string or anyURI, got {got}"
  | patternType f => s!"{f}: pattern is not a string"
  | subjectType f got => s!"{f}: cannot match a {got} value"
  | unbound f => s!"{f}: not callable"
  | assertion t => s!"assertion failed: every value is a {t}"
  | tooManyElements t n => s!"bag<{t}> has {n} elements, expected at most one"
  | noElement t => s!"bag<{t}> is empty, expected exactly one element"
  | bagSize => "bag size out of integer range"
  | overflow operation => s!"integer overflow in {operation}"
  | divisionByZero operation => s!"{operation}: division by zero"
  | outOfIntegerRange d =>
    "double-to-integer: " ++ d.plainText ++ " is out of the integer range"
  | range first past n =>
    s!"substring: invalid range [{first}, {past}) for a string of {n} characters"
  | literal t text fault => s!"invalid {t} value '" ++ text ++ "': " ++ fault.message
  | pattern text => "invalid regular expression '" ++ text ++ "': " ++ refusal text
  | negativeCount f n => s!"{f}: negative count {n}"
  | tooFewArguments f needed given => s!"{f}: {needed} true args required, only {given} given"
  | noContext leaf => s!"missing attributes: no evaluation context to resolve {leaf}"
  | unknownReason leaf => s!"missing attribute {leaf} (unknown reason)"
  | providerType leaf got => s!"{leaf}: provider returned a bag<{got}>"
  | notInRequest name => s!"{name} not found in request"
  | noContent category => s!"no content for category {category}"
  | noContextPath leaf name => s!"{leaf}: no value for context selector {name}"
  | noSource t => s!"non-empty attribute bag<{t}> without source"

/-- The status of a problem that no other failure caused. -/
def status : Problem → Status
  | absent _ | noContext _ | unknownReason _ | notInRequest _ | noContent _ | noContextPath _ _ =>
    .missingAttribute
  | literal _ _ _ | pattern _ => .syntaxError
  | _ => .processingError

end Problem

/-! ## Failures -/

/-- One link of a chain of failures. -/
structure Frame where
  status : Status
  problem : Problem
deriving DecidableEq

def Frame.message (refusal : String → String) (f : Frame) : String := f.problem.message refusal

/-- A failure and the failures that caused it, from the outside in. -/
structure Failure where
  frame : Frame
  causes : List Frame
deriving DecidableEq

namespace Failure

/-- A failure without a cause. -/
def of (p : Problem) : Failure := ⟨⟨p.status, p⟩, []⟩

/-- A failure reported from outside. -/
def reported (status : Status) (message : String) (cause : Option Failure) : Failure :=
  ⟨⟨status, .reported message⟩, match cause with
    | some c => c.frame :: c.causes
    | none => []⟩

def status (f : Failure) : Status := f.frame.status

def message (refusal : String → String) (f : Failure) : String := f.frame.message refusal

/-- Every frame, the outermost first. -/
def chain (f : Failure) : List Frame := f.frame :: f.causes

def cause? (f : Failure) : Option Failure :=
  match f.causes with
  | [] => none
  | c :: rest => some ⟨c, rest⟩

/-- The frame that started the chain. -/
def root (f : Failure) : Frame := f.causes.getLastD f.frame

/-- Puts a failure of its own status in front of a cause. -/
def causedBy (p : Problem) (cause : Failure) : Failure := ⟨⟨p.status, p⟩, cause.chain⟩

/-- Puts a frame in front that keeps the status of the cause. -/
def wrap (p : Problem) (cause : Failure) : Failure := ⟨⟨cause.status, p⟩, cause.chain⟩

/-- The failure of argument `index` of a function. -/
def inArgument (function : String) (index : Nat) : Failure → Failure :=
  wrap (.argument function index)

def text (refusal : String → String) (f : Failure) : String :=
  f.status.name ++ ": " ++ f.message refusal

theorem chain_wrap (p : Problem) (cause : Failure) :
    (wrap p cause).chain = ⟨cause.status, p⟩ :: cause.chain := rfl

end Failure

end Xacml
