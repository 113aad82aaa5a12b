/-
The layouts that the parameters of a first-order function can have, and the kinds of kernel, each of
which suits one layout.
-/
import Xacml.AttributeType

namespace Xacml

/-- How the parameters of a function are laid out. -/
inductive ArgumentShape where
  /-- Single values of one type. -/
  | uniform (type : AttributeType)
  /-- Single values of several types. -/
  | mixed
  /-- Bags alone. -/
  | bags
  /-- Single values, then bags. -/
  | valuesThenBags
deriving DecidableEq, Repr

/-- The layout in texts that show the structure of a value. -/
def ArgumentShape.tag : ArgumentShape → String
  | .uniform t => "SinglePrimitive(" ++ t.tag ++ ")"
  | .mixed => "MultiPrimitive"
  | .bags => "Bags"
  | .valuesThenBags => "PartlyBag"

/-- The kinds of kernel. -/
inductive KernelKind where
  | uniform
  | mixed
  | bags
  | valuesThenBags
deriving DecidableEq, Repr

namespace KernelKind

def name : KernelKind → String
  | .uniform => "single-primitive"
  | .mixed => "multi-primitive"
  | .bags => "bag"
  | .valuesThenBags => "partly-bag"

/-- The kind of kernel that suits a layout. -/
def ofShape : ArgumentShape → KernelKind
  | .uniform _ => .uniform
  | .mixed => .mixed
  | .bags => .bags
  | .valuesThenBags => .valuesThenBags

end KernelKind

end Xacml
