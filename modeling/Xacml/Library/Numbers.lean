/-
Arithmetic, and conversion between the two numeric types. Integer operations that leave the range
fail, and so does division by zero. The operations of many arguments go from left to right.
-/
import Xacml.Library.Kernel

namespace Xacml.Library

/-! ## Integers -/

/-- The answer of an integer operation, or its failure if there is none in range. -/
def orOverflow (operation : String) (answer : Option Int64) : Except Failure Value :=
  match answer with
  | some i => .ok (.single (.integer i))
  | none => .error (.of (.overflow operation))

/-- Folds a list of integers, as long as every step has an answer. -/
def foldIntegers (step : Int64 → Int64 → Option Int64) (first : Int64) (values : List Int64) :
    Option Int64 := values.foldlM step first

/-- A function that folds at least two integers. -/
def integerFold (name : String) (step : Int64 → Int64 → Option Int64) (first : Int64) :
    FirstOrderFunction :=
  variadic (functionId "1.0" name) .integer .integer 2 fun values => do
    let numbers ← values.mapM AttributeValue.getInteger
    orOverflow name (foldIntegers step first numbers)

def integerSubtract : FirstOrderFunction :=
  binary (functionId "1.0" "integer-subtract") .integer .integer fun a b => do
    let x ← a.getInteger
    let y ← b.getInteger
    orOverflow "integer-subtract" (Integer.sub? x y)

/-- A function that divides integers, in the sense of `quotient`. -/
def integerDivision (name : String) (quotient : Int64 → Int64 → Option Int64) :
    FirstOrderFunction :=
  binary (functionId "1.0" name) .integer .integer fun a b => do
    let x ← a.getInteger
    let y ← b.getInteger
    if y = 0 then .error (.of (.divisionByZero name)) else orOverflow name (quotient x y)

def integerAbs : FirstOrderFunction :=
  unary (functionId "1.0" "integer-abs") .integer .integer fun a => do
    orOverflow "integer-abs" (Integer.abs? (← a.getInteger))

def integerFunctions : List FirstOrderFunction :=
  [integerFold "integer-add" Integer.add? 0,
    integerFold "integer-multiply" Integer.mul? 1,
    integerSubtract,
    integerDivision "integer-divide" Integer.div?,
    integerDivision "integer-mod" Integer.mod?,
    integerAbs]

/-! ## Doubles -/

/-- A function that folds at least two doubles. -/
def doubleFold (name : String) (step : Double → Double → Double) (first : Double) :
    FirstOrderFunction :=
  variadic (functionId "1.0" name) .double .double 2 fun values => do
    let numbers ← values.mapM AttributeValue.getDouble
    return .single (.double (numbers.foldl step first))

def doubleSubtract : FirstOrderFunction :=
  binary (functionId "1.0" "double-subtract") .double .double fun a b => do
    let x ← a.getDouble
    let y ← b.getDouble
    return .single (.double (x.sub y))

def doubleDivide : FirstOrderFunction :=
  binary (functionId "1.0" "double-divide") .double .double fun a b => do
    let x ← a.getDouble
    let y ← b.getDouble
    if y.compare? (Double.zero false) = some .eq then
      .error (.of (.divisionByZero "double-divide"))
    else return .single (.double (x.div y))

/-- A function of one double. -/
def doubleUnary (name : String) (run : Double → Double) : FirstOrderFunction :=
  unary (functionId "1.0" name) .double .double fun a => do
    return .single (.double (run (← a.getDouble)))

/-- A sum starts from negative zero, which every number absorbs. -/
def doubleFunctions : List FirstOrderFunction :=
  [doubleFold "double-add" Double.add (Double.zero true),
    doubleFold "double-multiply" Double.mul Double.one,
    doubleSubtract,
    doubleDivide,
    doubleUnary "double-abs" Double.abs,
    doubleUnary "round" Double.round,
    doubleUnary "floor" Double.floor]

/-! ## Conversion -/

/-- The whole number toward zero, if it is an integer in range. -/
def doubleToInteger : FirstOrderFunction :=
  unary (functionId "1.0" "double-to-integer") .integer .double fun a => do
    let x ← a.getDouble
    match x.truncated?.bind Integer.ofInt? with
    | some i => return .single (.integer i)
    | none => .error (.of (.outOfIntegerRange x.truncate))

/-- The double nearest to an integer. -/
def integerToDouble : FirstOrderFunction :=
  unary (functionId "1.0" "integer-to-double") .double .integer fun a => do
    return .single (.double (.ofInt (← a.getInteger).toInt))

def numbers : List FirstOrderFunction :=
  integerFunctions ++ doubleFunctions ++ [doubleToInteger, integerToDouble]

end Xacml.Library
