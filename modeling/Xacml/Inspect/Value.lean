/-
Texts that show the structure of values, bags, failures and functions.
-/
import Xacml.Function.Basic
import Xacml.Inspect.Layout
import Xacml.Pattern.Cache

namespace Xacml

/-! ## Values -/

/-- Unlike the written form, the names of the values without digits are in lower case but for
NaN. -/
def Double.inspect (d : Double) : String :=
  if d.isInfinite then if d.negative then "-inf" else "inf" else d.text

/-- Unlike the written form, an offset of zero is written as such. -/
def Calendar.DateTime.inspect (t : Calendar.DateTime) : String :=
  if t.offset = 0 then String.ofList (t.date.chars ++ 'T' :: t.time.chars) ++ "+00:00" else t.text

namespace AttributeValue

/-- What a value holds. -/
def inspectContent : AttributeValue → String
  | .string s => Inspect.quoted s
  | .boolean b => Inspect.bool b
  | .integer i => Integer.text i
  | .double d => d.inspect
  | .anyURI uri => Inspect.tuple AttributeType.anyURI.tag (Inspect.quoted uri)
  | .date d => d.text
  | .dateTime t => t.inspect
  | .time t => t.text
  | .hexBinary bytes => Inspect.list (bytes.map fun b => toString b.toNat)

def inspect (v : AttributeValue) : String := Inspect.tuple v.type.tag v.inspectContent

end AttributeValue

/-! ## Bags and failures -/

def Status.tag : Status → String
  | .missingAttribute => "MissingAttribute"
  | .syntaxError => "SyntaxError"
  | .processingError => "ProcessingError"

section Failures

-- how the reader of patterns puts its refusal of a text
variable (refusal : String → String)

/-- Shows a frame around its cause, which is shown already. -/
def Frame.inspect (f : Frame) (cause : Option String) : String :=
  Inspect.record "Indeterminate"
    [("status", f.status.tag), ("message", Inspect.quoted (f.message refusal)),
      ("cause", Inspect.optional cause)]

def Failure.inspect (f : Failure) : String :=
  f.frame.inspect refusal
    (f.causes.foldr (fun frame cause => some (frame.inspect refusal cause)) none)

def Bag.inspect (b : Bag) : String :=
  Inspect.record "Bag"
    [("element_type", b.element.tag), ("values", Inspect.list (b.values.map (·.inspect))),
      ("reason_why_empty", Inspect.optional (b.reason?.map (·.inspect refusal)))]

end Failures

/-! ## Functions -/

def Datatype.inspect : Datatype → String
  | .value t => Inspect.tuple "Attribute" t.tag
  | .bag t => Inspect.tuple "Bag" t.tag
  | .function => "Function"

def Signature.inspect (s : Signature) : String :=
  Inspect.record "FunctionSignature"
    [("parameters", Inspect.list (s.parameters.map (·.inspect))),
      ("varargs", Inspect.bool s.variadic)]

def Connective.tag : Connective → String
  | .or => "Or"
  | .and => "And"
  | .nOf => "NOf"

def Combinator.tag : Combinator → String
  | .anyOf => "AnyOf"
  | .allOf => "AllOf"
  | .anyOfAny => "AnyOfAny"
  | .allOfAny => "AllOfAny"
  | .anyOfAll => "AnyOfAll"
  | .allOfAll => "AllOfAll"
  | .map => "Map"

def Pattern.Cache.inspect (c : Pattern.Cache) : String :=
  Inspect.record "RegexCache" [("capacity", toString c.capacity), ("len", toString c.size)]

/-- Shows a body, and with one that matches patterns their store. -/
def Body.inspect {V : Type} (patterns : Pattern.Cache) : Body V → String
  | .kernel kind _ => kind.name
  | .connective c => Inspect.tuple "Custom" (Inspect.tuple "LazyLogical" c.tag)
  | .matching => Inspect.tuple "Custom" (Inspect.record "RegexpMatch" [("cache", patterns.inspect)])
  | .declaredOnly => Inspect.tuple "Custom" "Refuse"

/-- Shows the declaration of a function that has a layout. -/
def FirstOrder.inspect {V : Type} (patterns : Pattern.Cache) (f : FirstOrder V) : String :=
  Inspect.record "FirstOrderFunction"
    [("id", Inspect.quoted f.id), ("return_type", f.returns.inspect),
      ("signature", f.signature.inspect),
      ("shape", match f.signature.shape with
        | .ok shape => shape.tag
        | .error fault => fault.text),
      ("implementation", f.body.inspect patterns)]

/-- Shows a function by its order and identifier. -/
def Callable.inspect {V : Type} : Callable V → String
  | .firstOrder f => Inspect.tuple "FirstOrder" f.id
  | .combinator c => Inspect.tuple "HigherOrder" c.id

def Value.inspect (refusal : String → String) : Value → String
  | .single v => Inspect.tuple "Attribute" v.inspect
  | .bag b => Inspect.tuple "Bag" (b.inspect refusal)
  | .function f => Inspect.tuple "Function" f.inspect

end Xacml
