/-
Typed views of attribute values. A cast never converts: a value is of the type that is asked for,
or the cast fails.
-/
import Xacml.Failure

namespace Xacml

namespace AttributeValue

/-- The failure of asking a value for a type that it is not of. -/
def mismatch (expected : AttributeType) (v : AttributeValue) : Failure :=
  .of (.cast (.value expected) (.value v.type))

/-- Hands a value on if it is of the type. -/
def checked (t : AttributeType) (v : AttributeValue) : Except Failure AttributeValue :=
  if v.type = t then .ok v else .error (v.mismatch t)

/-- Hands a value on as the representation of one type, asked for through another: the two must be
the same. -/
def checkedThrough (through requested : AttributeType) (v : AttributeValue) :
    Except Failure AttributeValue :=
  if requested = through then v.checked requested
  else .error (.of (.representation through requested))

/-! ## What a value holds -/

def getString : AttributeValue → Except Failure String
  | .string s => .ok s
  | v => .error (v.mismatch .string)

def getBoolean : AttributeValue → Except Failure Bool
  | .boolean b => .ok b
  | v => .error (v.mismatch .boolean)

def getInteger : AttributeValue → Except Failure Int64
  | .integer i => .ok i
  | v => .error (v.mismatch .integer)

def getDouble : AttributeValue → Except Failure Double
  | .double d => .ok d
  | v => .error (v.mismatch .double)

/-- The text of a string or URI. -/
def getText : AttributeValue → Except Failure String
  | .string s => .ok s
  | .anyURI uri => .ok uri
  | v => .error (.of (.notText v.type))

end AttributeValue

end Xacml
