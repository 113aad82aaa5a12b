/-
Attribute values: what each attribute type holds, the written forms, equality, hashing and order. Two
values are the same if they have one type and denote one thing: doubles by their bits, dateTimes by
their instant. Only some types have an order.
-/
import Xacml.AttributeType
import Xacml.Calendar.Text
import Xacml.Double.Decimal
import Xacml.Integer

namespace Xacml

inductive AttributeValue where
  | string (s : String)
  | boolean (b : Bool)
  | integer (i : Int64)
  | double (d : Double)
  | anyURI (uri : String)
  | date (d : Calendar.Date)
  | dateTime (t : Calendar.DateTime)
  | time (t : Calendar.Time)
  | hexBinary (bytes : List UInt8)
deriving DecidableEq

namespace AttributeValue

instance : Inhabited AttributeValue := ⟨.boolean false⟩

def type : AttributeValue → AttributeType
  | .string _ => .string
  | .boolean _ => .boolean
  | .integer _ => .integer
  | .double _ => .double
  | .anyURI _ => .anyURI
  | .date _ => .date
  | .dateTime _ => .dateTime
  | .time _ => .time
  | .hexBinary _ => .hexBinary

/-! ## Equality and order -/

/-- Whether two values are the same value. -/
def same : AttributeValue → AttributeValue → Bool
  | .dateTime a, .dateTime b => a.sameInstant b
  | a, b => decide (a = b)

instance : BEq AttributeValue := ⟨same⟩

/-- What a hasher gets to see of a value. -/
inductive Key where
  | value (v : AttributeValue)
  | instant (seconds : Int) (nano : Nat)
deriving DecidableEq

/-- The type and what is held, but only the instant of a dateTime. -/
def key : AttributeValue → Key
  | .dateTime t => .instant t.seconds t.time.nano
  | v => .value v

/-- Hashing sees just what equality sees. -/
theorem same_iff_key_eq {v w : AttributeValue} : v.same w = true ↔ v.key = w.key := by
  cases v <;> cases w <;>
    simp [same, key, Calendar.DateTime.sameInstant, Calendar.DateTime.instant]

theorem type_eq_of_same {v w : AttributeValue} (h : v.same w = true) : v.type = w.type := by
  cases v <;> cases w <;> simp_all [same, type]

/-- The order within a type; none across types, for types without an order, and for NaN. -/
def compare? : AttributeValue → AttributeValue → Option Ordering
  | .string a, .string b => some (compare a b)
  | .integer a, .integer b => some (compare a.toInt b.toInt)
  | .double a, .double b => a.compare? b
  | .date a, .date b => some (a.compare b)
  | .dateTime a, .dateTime b => some (a.compare b)
  | .time a, .time b => some (a.compare b)
  | _, _ => none

/-! ## Written forms -/

/-- The canonical written form. -/
def text : AttributeValue → String
  | .string s => s
  | .boolean b => if b then "true" else "false"
  | .integer i => Integer.text i
  | .double d => d.text
  | .anyURI uri => uri
  | .date d => d.text
  | .dateTime t => t.text
  | .time t => t.text
  | .hexBinary bytes => String.ofList (Text.hexText bytes)

instance : ToString AttributeValue := ⟨text⟩

/-- Why a text is not in the lexical space of a type. -/
inductive LexicalFault where
  | notBoolean
  | notDouble
  | integer (fault : Integer.Fault)
  | double (fault : Double.Fault)
  | calendar (fault : Calendar.Fault)
  | hex (fault : Text.HexFault)
deriving DecidableEq, Repr

def LexicalFault.message : LexicalFault → String
  | .notBoolean => "not a boolean"
  | .notDouble => "not a double"
  | .integer fault => fault.message
  | .double fault => fault.message
  | .calendar fault => fault.message
  | .hex fault => fault.message

/-- Reads a double; of the letters only the mark of an exponent may occur in a number. -/
def readDouble (s : List Char) : Except LexicalFault Double :=
  if s = "INF".toList then .ok (Double.infinity false)
  else if s = "-INF".toList then .ok (Double.infinity true)
  else if s = "NaN".toList then .ok Double.nan
  else if s.any fun c => c.isAlpha && c != 'e' && c != 'E' then .error .notDouble
  else (Double.read s).mapError .double

def readBoolean (s : List Char) : Except LexicalFault Bool :=
  if s = "true".toList ∨ s = "1".toList then .ok true
  else if s = "false".toList ∨ s = "0".toList then .ok false
  else .error .notBoolean

/-- Reads the lexical form of a type. Blanks around it do not count, but for strings. -/
def read (t : AttributeType) (lexical : String) : Except LexicalFault AttributeValue :=
  let s := Text.trim lexical.toList
  match t with
  | .string => .ok (.string lexical)
  | .boolean => (readBoolean s).map .boolean
  | .integer => ((Integer.read s).map .integer).mapError .integer
  | .double => (readDouble s).map .double
  | .anyURI => .ok (.anyURI (String.ofList s))
  | .date => ((Calendar.readDate s).map .date).mapError .calendar
  | .dateTime => ((Calendar.readDateTime s).map .dateTime).mapError .calendar
  | .time => ((Calendar.readTime s).map .time).mapError .calendar
  | .hexBinary => ((Text.readHex s).map .hexBinary).mapError .hex

/-- What is read as a type is of that type. -/
theorem type_of_read {t : AttributeType} {s : String} {v : AttributeValue} (h : read t s = .ok v) :
    v.type = t := by
  have map_ok {α β ε : Type} (f : α → β) (e : Except ε α) {b : β} (h : e.map f = .ok b) :
      ∃ a, b = f a := by
    cases e with
    | error _ => cases h
    | ok a => cases h; exact ⟨a, rfl⟩
  have mapError_ok {α ε ε' : Type} (f : ε → ε') (e : Except ε α) {a : α}
      (h : e.mapError f = .ok a) : e = .ok a := by
    cases e with
    | error _ => cases h
    | ok _ => cases h; rfl
  cases t <;> simp only [read] at h
  case string => cases h; rfl
  case anyURI => cases h; rfl
  case boolean => obtain ⟨_, rfl⟩ := map_ok _ _ h; rfl
  case double => obtain ⟨_, rfl⟩ := map_ok _ _ h; rfl
  all_goals obtain ⟨_, rfl⟩ := map_ok _ _ (mapError_ok _ _ h); rfl

end AttributeValue

end Xacml
