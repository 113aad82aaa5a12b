/-
Doubles are IEEE 754 binary64 numbers held as their bits, so equality is identity of the bit
pattern. A finite double is a whole number of units of `2 ^ -1074`; every operation works on that
number exactly and rounds once, to nearest with ties to even.
-/
namespace Xacml

/-- A binary64 number: sign, eleven exponent bits, fifty-two fraction bits. -/
structure Double where
  bits : UInt64
deriving DecidableEq, Repr, Inhabited

namespace Double

/-! ## Fields -/

def negative (x : Double) : Bool := x.bits >>> 63 == 1

def exponent (x : Double) : Nat := ((x.bits >>> 52) &&& 0x7FF).toNat

def fraction (x : Double) : Nat := (x.bits &&& 0xFFFFFFFFFFFFF).toNat

def isFinite (x : Double) : Bool := x.exponent != 0x7FF

def isNaN (x : Double) : Bool := x.exponent == 0x7FF && x.fraction != 0

def isInfinite (x : Double) : Bool := x.exponent == 0x7FF && x.fraction == 0

def ofFields (negative : Bool) (magnitude : Nat) : Double :=
  ⟨(if negative then (1 : UInt64) <<< 63 else 0) ||| magnitude.toUInt64⟩

def zero (negative : Bool) : Double := ofFields negative 0

def infinity (negative : Bool) : Double := ofFields negative (0x7FF <<< 52)

/-- The number that the literal `NaN` denotes. -/
def nan : Double := ⟨0x7FF8000000000000⟩

/-- The answer of an operation that has no number to give. -/
def invalid : Double := ⟨0xFFF8000000000000⟩

def one : Double := ⟨0x3FF0000000000000⟩

/-! ## Magnitudes in units of `2 ^ -1074` -/

/-- The magnitude of a finite double. -/
def magnitude (x : Double) : Nat :=
  if x.exponent = 0 then x.fraction else (x.fraction + (1 <<< 52)) <<< (x.exponent - 1)

/-- The signed value of a finite double. -/
def units (x : Double) : Int := if x.negative then -x.magnitude else x.magnitude

/-- `num / den` rounded to the nearest whole number, ties to even. -/
def roundHalfEven (num den : Nat) : Nat :=
  let q := num / den
  let r := num % den
  if 2 * r < den then q else if den < 2 * r then q + 1 else q + q % 2

/-- The double of magnitude `units`, which has at most fifty-three significant bits. -/
def ofMagnitude (negative : Bool) (units : Nat) : Double :=
  if units < 1 <<< 52 then ofFields negative units
  else
    let shift := units.log2 - 52
    if 2046 ≤ shift then infinity negative
    else ofFields negative (((shift + 1) <<< 52) + ((units >>> shift) - (1 <<< 52)))

/-- The double nearest to `num / den` units. -/
def roundUnits (negative : Bool) (num den : Nat) : Double :=
  let shift := (num / den).log2 - 52
  ofMagnitude negative (roundHalfEven num (den <<< shift) <<< shift)

/-- The double nearest to `num / den`. -/
def ofRatio (negative : Bool) (num den : Nat) : Double :=
  roundUnits negative (num <<< 1074) den

def ofInt (i : Int) : Double := ofRatio (i < 0) i.natAbs 1

/-! ## Arithmetic -/

/-- A NaN operand is the answer, the first one if there are two. -/
def propagate (a b : Double) (answer : Double) : Double :=
  if a.isNaN then a else if b.isNaN then b else answer

def neg (a : Double) : Double := ⟨a.bits ^^^ ((1 : UInt64) <<< 63)⟩

def abs (a : Double) : Double := ⟨a.bits &&& 0x7FFFFFFFFFFFFFFF⟩

/-- A sum of zero is negative only if both terms are. -/
def add (a b : Double) : Double :=
  propagate a b <|
    if a.isInfinite then
      if b.isInfinite && a.negative != b.negative then invalid else a
    else if b.isInfinite then b
    else
      let sum := a.units + b.units
      if sum = 0 then zero (a.negative && b.negative)
      else roundUnits (sum < 0) sum.natAbs 1

def sub (a b : Double) : Double := if b.isNaN then propagate a b b else add a b.neg

def mul (a b : Double) : Double :=
  let negative := a.negative != b.negative
  propagate a b <|
    if a.isInfinite || b.isInfinite then
      if a.units = 0 || b.units = 0 then invalid else infinity negative
    else roundUnits negative (a.magnitude * b.magnitude) (1 <<< 1074)

/-- The quotient by a divisor other than zero. -/
def div (a b : Double) : Double :=
  let negative := a.negative != b.negative
  propagate a b <|
    if a.isInfinite then if b.isInfinite then invalid else infinity negative
    else if b.isInfinite then zero negative
    else ofRatio negative a.magnitude b.magnitude

/-- Changes the magnitude of a finite number to a whole one, keeping its sign. -/
def toWhole (whole : Bool → Nat → Nat) (a : Double) : Double :=
  if a.isFinite then ofMagnitude a.negative (whole a.negative a.magnitude <<< 1074) else a

def floor : Double → Double :=
  toWhole fun negative m => if negative then (m + (1 <<< 1074) - 1) >>> 1074 else m >>> 1074

/-- The nearest whole number, ties to even. -/
def round : Double → Double := toWhole fun _ m => roundHalfEven m (1 <<< 1074)

/-- The next whole number toward zero. -/
def truncate : Double → Double := toWhole fun _ m => m >>> 1074

/-- The whole number a finite double denotes after truncation. -/
def truncated? (a : Double) : Option Int :=
  if a.isFinite then
    let whole : Int := a.magnitude >>> 1074
    some (if a.negative then -whole else whole)
  else none

/-! ## Order -/

/-- The numeric order; a NaN compares with nothing. -/
def compare? (a b : Double) : Option Ordering :=
  if a.isNaN || b.isNaN then none
  else some (compare (key a) (key b))
where
  /-- Rises with the value; both zeros have the key zero. -/
  key (x : Double) : Int :=
    let m : Int := (x.bits &&& 0x7FFFFFFFFFFFFFFF).toNat
    if x.negative then -m else m

end Double

end Xacml
