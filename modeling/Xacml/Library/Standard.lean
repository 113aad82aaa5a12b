/-
The standard library: every function that a policy may name without declaring it. Of the logical
functions, which stand here, the connectives evaluate their arguments lazily; negation is an ordinary
function of one value.
-/
import Xacml.Library.Bags
import Xacml.Library.Comparison
import Xacml.Library.Numbers
import Xacml.Library.Strings

namespace Xacml.Library

/-! ## Logic -/

/-- A connective with its name and parameters. -/
def connective (c : Connective) (name : String) (parameters : List Datatype) :
    FirstOrderFunction where
  id := functionId "1.0" name
  returns := .boolean
  signature := .variadicOf parameters
  body := .connective c

def negation : FirstOrderFunction :=
  unary (functionId "1.0" "not") .boolean .boolean fun a => do
    return .ofBool !(← a.getBoolean)

def logic : List FirstOrderFunction :=
  [connective .or "or" [.boolean],
    connective .and "and" [.boolean],
    connective .nOf "n-of" [.integer, .boolean],
    negation]

/-! ## All functions -/

def firstOrder : List FirstOrderFunction := comparisons ++ numbers ++ strings ++ logic ++ bags

def standard : List Function :=
  firstOrder.map .firstOrder ++ Combinator.all.map .combinator

end Xacml.Library
