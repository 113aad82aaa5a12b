/-
Decimal forms of doubles. Reading takes a sign, digits with at most one point and an optional
exponent, and rounds the exact value once. Writing takes the fewest digits that read back to the
same double, of those the nearest to it, and lays them out either by position or with an exponent.
-/
import Xacml.Double.Basic
import Xacml.Text.Bytes

namespace Xacml.Double

/-! ## Reading -/

inductive Fault where
  | empty
  | invalid
deriving DecidableEq, Repr

def Fault.message : Fault → String
  | .empty => "cannot parse float from empty string"
  | .invalid => "invalid float literal"

/-- The double nearest to `digits · 10 ^ exponent`. Exponents far outside the range of doubles are
answered without forming the power. -/
def ofDecimal (negative : Bool) (digits : Nat) (exponent : Int) : Double :=
  if digits = 0 then zero negative
  else
    let order := exponent + (Nat.toDigits 10 digits).length
    if order > 310 then infinity negative
    else if order < -330 then zero negative
    else if 0 ≤ exponent then ofRatio negative (digits * Nat.pow 10 exponent.toNat) 1
    else ofRatio negative digits (Nat.pow 10 (-exponent).toNat)

/-- The exponent after the mark `e` or `E`: an optional sign and at least one digit. -/
def readExponent (s : List Char) : Option Int :=
  let (sign, digits) : Int × List Char := match s with
    | '-' :: rest => (-1, rest)
    | '+' :: rest => (1, rest)
    | _ => (1, s)
  if digits.isEmpty || !digits.all Char.isDigit then none
  else some (sign * Text.digitsValue digits)

/-- Reads an unsigned decimal: digits with at most one point among them, at least one digit, then
an optional exponent. -/
def readUnsigned (negative : Bool) (s : List Char) : Option Double := do
  let whole := s.takeWhile Char.isDigit
  let (fraction, rest) := match s.dropWhile Char.isDigit with
    | '.' :: t => (t.takeWhile Char.isDigit, t.dropWhile Char.isDigit)
    | t => ([], t)
  if whole.isEmpty && fraction.isEmpty then none
  else
    let exponent ← match rest with
      | [] => some 0
      | c :: t => if c = 'e' || c = 'E' then readExponent t else none
    some (ofDecimal negative (Text.digitsValue (whole ++ fraction)) (exponent - fraction.length))

def read (s : List Char) : Except Fault Double :=
  let number := match s with
    | '-' :: rest => readUnsigned true rest
    | '+' :: rest => readUnsigned false rest
    | _ => readUnsigned false s
  match s, number with
  | [], _ => .error .empty
  | _, none => .error .invalid
  | _, some x => .ok x

/-! ## The shortest digits -/

/-- Half the distance to the two neighbours of a positive finite double, in quarters of a unit.
Below a power of two the neighbour is half as far. -/
def halfGaps (x : Double) : Nat × Nat :=
  let gap := 1 <<< (x.exponent - 1)
  (if x.fraction = 0 && 1 < x.exponent then gap else 2 * gap, 2 * gap)

/-- The order of magnitude: the `e` with `10 ^ e ≤ num / den < 10 ^ (e + 1)`, for a positive
quotient. -/
def decimalOrder (num den : Nat) : Int :=
  if den ≤ num then (Nat.toDigits 10 (num / den)).length - 1
  else -((Nat.toDigits 10 ((den - 1) / num)).length : Int)

/-- The decimal nearest to `x` among those with the last digit at `10 ^ place` that read back to
`x`, as a multiple of that power. -/
def nearestOn (x : Double) (place : Int) : Option Nat :=
  let (below, above) := x.halfGaps
  let value := 4 * x.magnitude
  -- the value, its interval and the grid's step over the common denominator
  let scale := Nat.pow 10 (-place).toNat
  let step := Nat.pow 10 place.toNat <<< 1076
  let target := value * scale
  let low := (value - below) * scale
  let high := (value + above) * scale
  let even := x.fraction % 2 = 0
  let inside (d : Nat) : Bool :=
    if even then low ≤ d * step && d * step ≤ high else low < d * step && d * step < high
  let d := target / step
  let downOk := inside d && d != 0
  let upOk := inside (d + 1)
  if downOk && upOk then some (if 2 * (target - d * step) < step then d else d + 1)
  else if downOk then some d
  else if upOk then some (d + 1)
  else none

/-- Searches the grids of `count`, `count + 1`, … digits; seventeen digits always suffice. -/
def shortestFrom (x : Double) (order : Int) : Nat → Nat → Nat × Int
  | 0, _ => (x.magnitude, 0)
  | fuel + 1, count =>
    let place := order + 1 - count
    match nearestOn x place with
    | some d => (d, place)
    | none => shortestFrom x order fuel (count + 1)

/-- The digits `d` and place `p` of the shortest decimal `d · 10 ^ p` of a positive finite
double. -/
def shortest (x : Double) : Nat × Int :=
  shortestFrom x (decimalOrder x.magnitude (1 <<< 1074)) 17 1

/-! ## Layout -/

/-- How the digits of a number are laid out: numbers below `10 ^ lower` or from `10 ^ upper` on are
written with an exponent, and a whole number shows a fraction digit or not. -/
structure Layout where
  exponential : Option (Int × Int)
  fraction : Bool

/-- Values are written by position from `0.0001` up to `10 ^ 16`, always with a fraction digit. -/
def Layout.value : Layout := ⟨some (-4, 16), true⟩

/-- Messages write numbers by position, whole ones without a fraction. -/
def Layout.plain : Layout := ⟨none, false⟩

/-- Digits without the zeros at their end. -/
def significant (digits : List Char) : List Char :=
  (digits.reverse.dropWhile (· == '0')).reverse

/-- `0.d₁d₂… · 10 ^ point` by position. -/
def positional (layout : Layout) (digits : List Char) (point : Int) : List Char :=
  let fractionOf (ds : List Char) :=
    if ds.isEmpty then (if layout.fraction then ['.', '0'] else []) else '.' :: ds
  if point ≤ 0 then '0' :: '.' :: (List.replicate (-point).toNat '0' ++ digits)
  else
    let n := point.toNat
    digits.take n ++ List.replicate (n - digits.length) '0' ++ fractionOf (digits.drop n)

/-- `d₁.d₂… e order`. -/
def scientific (digits : List Char) (order : Int) : List Char :=
  let rest := digits.drop 1
  digits.take 1 ++ (if rest.isEmpty then [] else '.' :: rest) ++ 'e' :: (toString order).toList

/-- The text of a finite double. -/
def finiteText (layout : Layout) (x : Double) : List Char :=
  let body :=
    if x.magnitude = 0 then if layout.fraction then ['0', '.', '0'] else ['0']
    else
      let (d, place) := x.shortest
      let all := Nat.toDigits 10 d
      let digits := significant all
      let point := place + all.length
      match layout.exponential with
      | some (lower, upper) =>
        if point ≤ lower || upper < point then scientific digits (point - 1)
        else positional layout digits point
      | none => positional layout digits point
  if x.negative then '-' :: body else body

/-- The text of a double as a value: `INF`, `-INF` and `NaN` are named. -/
def text (x : Double) : String :=
  if x.isNaN then "NaN"
  else if x.isInfinite then (if x.negative then "-INF" else "INF")
  else String.ofList (finiteText .value x)

/-- The text of a double in a message. -/
def plainText (x : Double) : String :=
  if x.isNaN then "NaN"
  else if x.isInfinite then (if x.negative then "-inf" else "inf")
  else String.ofList (finiteText .plain x)

end Xacml.Double
