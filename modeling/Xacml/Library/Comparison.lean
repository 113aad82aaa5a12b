/-
Equality for every type, and the order comparisons of the types that have an order. Doubles are
equal as numbers: NaN differs from itself, and the two zeros are equal.
-/
import Xacml.Library.Kernel
import Xacml.Unicode.Casing

namespace Xacml.Library

/-! ## Equality -/

def doubleEqual (a b : AttributeValue) : Except Failure Value := do
  let x ← a.getDouble
  let y ← b.getDouble
  return .ofBool (x.compare? y == some .eq)

def equal (t : AttributeType) : FirstOrderFunction :=
  binary (typedId t "equal") .boolean t <|
    match t with
    | .double => doubleEqual
    | _ => fun a b => .ok (.ofBool (a.same b))

/-- Equality of strings once both are in lower case. -/
def equalIgnoreCase : FirstOrderFunction :=
  binary (functionId "3.0" "string-equal-ignore-case") .boolean .string fun a b => do
    let s ← a.getString
    let t ← b.getString
    return .ofBool (Unicode.toLower s == Unicode.toLower t)

/-! ## Order -/

/-- The types that the order comparisons are for. -/
def orderedTypes : List AttributeType := [.integer, .double, .string, .date, .dateTime, .time]

/-- The order comparisons. -/
inductive Comparison where
  | greater
  | greaterOrEqual
  | less
  | lessOrEqual
deriving DecidableEq, Repr

namespace Comparison

def all : List Comparison := [.greater, .greaterOrEqual, .less, .lessOrEqual]

def name : Comparison → String
  | .greater => "greater-than"
  | .greaterOrEqual => "greater-than-or-equal"
  | .less => "less-than"
  | .lessOrEqual => "less-than-or-equal"

/-- Whether two values in this order pass. -/
def holds : Comparison → Ordering → Bool
  | .greater, o => o.isGT
  | .greaterOrEqual, o => o.isGE
  | .less, o => o.isLT
  | .lessOrEqual, o => o.isLE

/-- Compares two values of one type; values without an order pass no comparison. -/
def run (c : Comparison) (a b : AttributeValue) : Except Failure Value :=
  if a.type = b.type then .ok (.ofBool ((a.compare? b).any c.holds))
  else .error (.of (.incomparable a.type b.type))

end Comparison

def compare (t : AttributeType) (c : Comparison) : FirstOrderFunction :=
  binary (typedId t c.name) .boolean t c.run

def comparisons : List FirstOrderFunction :=
  AttributeType.all.map equal ++ [equalIgnoreCase] ++
    orderedTypes.flatMap fun t => Comparison.all.map (compare t)

end Xacml.Library
