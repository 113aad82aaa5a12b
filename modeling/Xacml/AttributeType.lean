/-
The atomic attribute types, and the datatypes of expressions built on them: a single value, a bag
of values of one type, or a function.
-/
namespace Xacml

/-! ## Attribute types -/

inductive AttributeType where
  | string
  | boolean
  | integer
  | double
  | anyURI
  | date
  | dateTime
  | time
  | hexBinary
deriving DecidableEq, Repr, Inhabited

namespace AttributeType

/-- Every attribute type, in the order in which functions are declared for them. -/
def all : List AttributeType :=
  [.string, .boolean, .integer, .double, .anyURI, .date, .dateTime, .time, .hexBinary]

theorem mem_all (t : AttributeType) : t ∈ all := by cases t <;> decide

/-- The local name in XML Schema. -/
def name : AttributeType → String
  | .string => "string"
  | .boolean => "boolean"
  | .integer => "integer"
  | .double => "double"
  | .anyURI => "anyURI"
  | .date => "date"
  | .dateTime => "dateTime"
  | .time => "time"
  | .hexBinary => "hexBinary"

instance : ToString AttributeType := ⟨name⟩

/-- The name in texts that show the structure of a value. -/
def tag : AttributeType → String
  | .string => "String"
  | .boolean => "Boolean"
  | .integer => "Integer"
  | .double => "Double"
  | .anyURI => "AnyUri"
  | .date => "Date"
  | .dateTime => "DateTime"
  | .time => "Time"
  | .hexBinary => "HexBinary"

def schemaNamespace : String := "http://www.w3.org/2001/XMLSchema#"

/-- The full identifier. -/
def id (t : AttributeType) : String := schemaNamespace ++ t.name

/-- The prefix of the identifiers of the functions that belong to one type. -/
def functionPrefix (t : AttributeType) : String :=
  "urn:oasis:names:tc:xacml:1.0:function:" ++ t.name

def ofName? (s : String) : Option AttributeType := all.find? (·.name == s)

/-- Resolves an identifier, full or local. -/
def ofId? (id : String) : Option AttributeType :=
  ofName? (match dropNamespace schemaNamespace.toList id.toList with
    | some rest => String.ofList rest
    | none => id)
where
  /-- What follows `front` in a text that begins with it. -/
  dropNamespace : List Char → List Char → Option (List Char)
    | [], s => some s
    | _ :: _, [] => none
    | c :: front, d :: s => if c = d then dropNamespace front s else none

theorem ofName?_name (t : AttributeType) : ofName? t.name = some t := by cases t <;> decide

end AttributeType

/-! ## Datatypes -/

/-- What an expression or a parameter is declared to be. -/
inductive Datatype where
  | value (type : AttributeType)
  | bag (element : AttributeType)
  | function
deriving DecidableEq, Repr, Inhabited

namespace Datatype

def boolean : Datatype := .value .boolean

def integer : Datatype := .value .integer

def double : Datatype := .value .double

def string : Datatype := .value .string

def name : Datatype → String
  | .value t => t.name
  | .bag t => "bag<" ++ t.name ++ ">"
  | .function => "function"

instance : ToString Datatype := ⟨name⟩

/-- The identifier; that of a bag is made from its element type's. -/
def id : Datatype → String
  | .value t => t.id
  | .bag t => "bag<" ++ t.id ++ ">"
  | .function => "urn:oasis:names:tc:xacml:3.0:data-type:function"

/-- The element type of a bag. -/
def element? : Datatype → Option AttributeType
  | .bag t => some t
  | _ => none

/-- The type of a single value. -/
def type? : Datatype → Option AttributeType
  | .value t => some t
  | _ => none

def isBag : Datatype → Bool
  | .bag _ => true
  | _ => false

theorem isBag_iff {d : Datatype} : d.isBag = true ↔ ∃ t, d = .bag t := by
  cases d <;> simp [isBag]

/-- Whatever is not a bag, functions included. -/
def isPrimitive (d : Datatype) : Bool := !d.isBag

end Datatype

end Xacml
