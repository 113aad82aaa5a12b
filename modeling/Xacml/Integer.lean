/-
Integers are the signed 64-bit numbers. Arithmetic is done exactly and then narrowed, so an
operation has an answer precisely when the mathematical result is in range; reading a decimal
narrows after every digit and reports the first fault from the left.
-/
namespace Xacml.Integer

/-! ## Exact arithmetic, then narrowing -/

/-- The range of the signed 64-bit integers. -/
def InRange (i : Int) : Prop := -0x8000000000000000 ≤ i ∧ i < 0x8000000000000000

instance (i : Int) : Decidable (InRange i) := inferInstanceAs (Decidable (_ ∧ _))

/-- The 64-bit integer of value `i`, where there is one. -/
def ofInt? (i : Int) : Option Int64 := if InRange i then some (Int64.ofInt i) else none

def add? (a b : Int64) : Option Int64 := ofInt? (a.toInt + b.toInt)

def sub? (a b : Int64) : Option Int64 := ofInt? (a.toInt - b.toInt)

def mul? (a b : Int64) : Option Int64 := ofInt? (a.toInt * b.toInt)

/-- The quotient truncated toward zero; the caller has excluded a zero divisor. -/
def div? (a b : Int64) : Option Int64 := ofInt? (a.toInt.tdiv b.toInt)

/-- The remainder with the dividend's sign, refused where the quotient is out of range; the caller
has excluded a zero divisor. -/
def mod? (a b : Int64) : Option Int64 := do
  let _ ← div? a b
  ofInt? (a.toInt.tmod b.toInt)

def abs? (a : Int64) : Option Int64 := ofInt? a.toInt.natAbs

theorem toInt_of_ofInt? {i : Int} {a : Int64} (h : ofInt? i = some a) : a.toInt = i := by
  unfold ofInt? at h
  split at h
  · rename_i hr
    cases h
    exact Int64.toInt_ofInt_of_le hr.1 hr.2
  · cases h

theorem ofInt?_eq_none_iff {i : Int} : ofInt? i = none ↔ ¬ InRange i := by
  unfold ofInt?
  split <;> simp_all

theorem inRange_toInt (a : Int64) : InRange a.toInt := ⟨a.le_toInt, a.toInt_lt⟩

theorem ofInt?_toInt (a : Int64) : ofInt? a.toInt = some a := by
  rw [ofInt?, if_pos (inRange_toInt a), Int64.ofInt_toInt]

/-! ## Reading decimals -/

/-- Why a text is no integer. -/
inductive Fault where
  | empty
  | invalidDigit
  | tooLarge
  | tooSmall
deriving DecidableEq, Repr

def Fault.message : Fault → String
  | .empty => "cannot parse integer from empty string"
  | .invalidDigit => "invalid digit found in string"
  | .tooLarge => "number too large to fit in target type"
  | .tooSmall => "number too small to fit in target type"

/-- The value of an ASCII digit. -/
def digit? (c : Char) : Option Nat := if c.isDigit then some (c.toNat - '0'.toNat) else none

/-- Appends the digits of a text to `value`, away from zero, and stops at the first character that
is no digit or takes the number out of range. -/
def readDigits (negative : Bool) : Int → List Char → Except Fault Int
  | value, [] => .ok value
  | value, c :: rest =>
    match digit? c with
    | none => .error .invalidDigit
    | some d =>
      let next := if negative then value * 10 - d else value * 10 + d
      if InRange next then readDigits negative next rest
      else .error (if negative then .tooSmall else .tooLarge)

/-- Reads an optional sign and at least one digit. -/
def readSigned : List Char → Except Fault Int
  | [] => .error .empty
  | ['+'] => .error .invalidDigit
  | ['-'] => .error .invalidDigit
  | '+' :: digits => readDigits false 0 digits
  | '-' :: digits => readDigits true 0 digits
  | digits => readDigits false 0 digits

/-- Reads an integer literal: a plus sign in front is dropped, and what follows is an optionally
signed decimal. -/
def read (s : List Char) : Except Fault Int64 :=
  let body := match s with
    | '+' :: rest => rest
    | _ => s
  (readSigned body).map Int64.ofInt

/-- The decimal text of an integer. -/
def text (a : Int64) : String := toString a.toInt

end Xacml.Integer
