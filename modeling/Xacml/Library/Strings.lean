/-
Functions on strings and URIs: joining, testing, cutting, normalising, matching with a pattern, and
conversion of other types to and from strings. Positions count characters from zero.
-/
import Xacml.Evaluation.Leaf
import Xacml.Library.Kernel
import Xacml.Text.Search
import Xacml.Unicode.Casing

namespace Xacml.Library

/-! ## Joining and normalising -/

def concatenate : FirstOrderFunction :=
  variadic (functionId "2.0" "string-concatenate") .string .string 2 fun values => do
    let parts ← values.mapM AttributeValue.getString
    return .single (.string ("".intercalate parts))

/-- A function that rewrites a string. -/
def normalizer (name : String) (run : String → String) : FirstOrderFunction :=
  unary (functionId "1.0" name) .string .string fun a => do
    return .single (.string (run (← a.getString)))

/-! ## Testing -/

/-- The tests of a part against a whole. -/
def textTests : List (String × (List Char → List Char → Bool)) :=
  [("starts-with", fun part whole => part.isPrefixOf whole),
    ("ends-with", fun part whole => part.isSuffixOf whole),
    ("contains", Text.occursIn)]

/-- Tests the first text against the second. -/
def runTextTest (test : List Char → List Char → Bool) (part whole : AttributeValue) :
    Except Failure Value := do
  let w ← whole.getText
  let p ← part.getText
  return .ofBool (test p.toList w.toList)

def stringTest (name : String) (test : List Char → List Char → Bool) : FirstOrderFunction :=
  binary (functionId "3.0" ("string-" ++ name)) .boolean .string (runTextTest test)

/-- Tests a string against a URI. -/
def uriTest (name : String) (test : List Char → List Char → Bool) : FirstOrderFunction :=
  binaryMixed (functionId "3.0" ("anyURI-" ++ name)) .boolean .string .anyURI (runTextTest test)

/-! ## Cutting -/

/-- The characters from `first` up to and without `past`; a `past` of -1 means the end. -/
def runSubstring (source first past : AttributeValue) : Except Failure Value := do
  let s := (← source.getText).toList
  let first := (← first.getInteger).toInt
  let past := (← past.getInteger).toInt
  let past := if past = -1 then (s.length : Int) else past
  if 0 ≤ first ∧ first ≤ past ∧ past ≤ s.length then
    return .single (.string (String.ofList ((s.drop first.toNat).take (past - first).toNat)))
  else .error (.of (.range first past s.length))

def substring (source : AttributeType) : FirstOrderFunction :=
  ternaryMixed (functionId "3.0" (source.name ++ "-substring")) .string source .integer .integer
    runSubstring

/-! ## Patterns -/

/-- Whether a pattern occurs in a subject of type `subject`. -/
def regexpMatch (version : String) (subject : AttributeType) : FirstOrderFunction where
  id := functionId version (subject.name ++ "-regexp-match")
  returns := .boolean
  signature := .fixed [.string, .value subject]
  body := .matching

/-! ## Conversion -/

/-- The types that convert to and from strings. -/
def convertibleTypes : List AttributeType :=
  [.boolean, .integer, .double, .anyURI, .date, .dateTime, .time]

def fromString (t : AttributeType) : FirstOrderFunction :=
  unary (functionId "3.0" (t.name ++ "-from-string")) (.value t) .string fun a => do
    return .single (← AttributeValue.readFound t (← a.getString))

def stringFrom (t : AttributeType) : FirstOrderFunction :=
  unary (functionId "3.0" ("string-from-" ++ t.name)) .string t fun a =>
    .ok (.single (.string a.text))

def strings : List FirstOrderFunction :=
  [concatenate,
    normalizer "string-normalize-space" Text.trimmed,
    normalizer "string-normalize-to-lower-case" Unicode.toLower] ++
  (textTests.flatMap fun (name, test) => [stringTest name test, uriTest name test]) ++
  [substring .string, substring .anyURI, regexpMatch "1.0" .string, regexpMatch "2.0" .anyURI] ++
  (convertibleTypes.flatMap fun t => [fromString t, stringFrom t])

end Xacml.Library
