/-
Builders of library functions. Each takes the identifier, the types and what to compute, and lays
out the parameters and the kernel alike, so that the kernel's arguments are those that the
parameters declare.
-/
import Xacml.Cast
import Xacml.Function.Basic

namespace Xacml.Library

/-- The identifier of a function that is not specific to a type; `version` is that of the standard
that introduced it. -/
def functionId (version name : String) : String :=
  "urn:oasis:names:tc:xacml:" ++ version ++ ":function:" ++ name

/-- The identifier of the variant of a function for one type. -/
def typedId (t : AttributeType) (name : String) : String := t.functionPrefix ++ "-" ++ name

/-- The failure of a kernel that got too few arguments. -/
def tooFew (id : String) (args : Arguments) : Failure :=
  .of (.noArgument id (args.values.length + args.bags.length))

/-! ## Functions of single values -/

section Values

variable (id : String) (returns : Datatype)

/-- A function of one value. -/
def unary (t : AttributeType) (run : AttributeValue → Except Failure Value) :
    FirstOrderFunction where
  id := id
  returns := returns
  signature := .fixed [.value t]
  body := .kernel .uniform fun args =>
    match args.values with
    | [a] => run a
    | _ => .error (tooFew id args)

/-- A function of two values of one type. -/
def binary (t : AttributeType) (run : AttributeValue → AttributeValue → Except Failure Value) :
    FirstOrderFunction where
  id := id
  returns := returns
  signature := .fixed [.value t, .value t]
  body := .kernel .uniform fun args =>
    match args.values with
    | [a, b] => run a b
    | _ => .error (tooFew id args)

/-- A function of two values of two types. -/
def binaryMixed (t u : AttributeType)
    (run : AttributeValue → AttributeValue → Except Failure Value) : FirstOrderFunction where
  id := id
  returns := returns
  signature := .fixed [.value t, .value u]
  body := .kernel .mixed fun args =>
    match args.values with
    | [a, b] => run a b
    | _ => .error (tooFew id args)

/-- A function of three values, not all of one type. -/
def ternaryMixed (t u v : AttributeType)
    (run : AttributeValue → AttributeValue → AttributeValue → Except Failure Value) :
    FirstOrderFunction where
  id := id
  returns := returns
  signature := .fixed [.value t, .value u, .value v]
  body := .kernel .mixed fun args =>
    match args.values with
    | [a, b, c] => run a b c
    | _ => .error (tooFew id args)

/-- A function of at least `least` values of one type. -/
def variadic (t : AttributeType) (least : Nat) (run : List AttributeValue → Except Failure Value) :
    FirstOrderFunction where
  id := id
  returns := returns
  signature := .variadicOf (List.replicate (least + 1) (.value t))
  body := .kernel .uniform fun args => run args.values

end Values

/-! ## Functions of bags -/

section Bags

variable (id : String) (returns : Datatype) (t : AttributeType)

/-- A function of one bag. -/
def ofBag (run : Bag → Except Failure Value) : FirstOrderFunction where
  id := id
  returns := returns
  signature := .fixed [.bag t]
  body := .kernel .bags fun args =>
    match args.bags with
    | [a] => run a
    | _ => .error (tooFew id args)

/-- A function of two bags of one type. -/
def ofTwoBags (run : Bag → Bag → Value) : FirstOrderFunction where
  id := id
  returns := returns
  signature := .fixed [.bag t, .bag t]
  body := .kernel .bags fun args =>
    match args.bags with
    | [a, b] => .ok (run a b)
    | _ => .error (tooFew id args)

/-- A function of at least two bags of one type. -/
def ofManyBags (run : List Bag → Except Failure Value) : FirstOrderFunction where
  id := id
  returns := returns
  signature := .variadicOf [.bag t, .bag t, .bag t]
  body := .kernel .bags fun args => run args.bags

/-- A function of a value and a bag of the value's type. -/
def ofValueAndBag (run : AttributeValue → Bag → Value) : FirstOrderFunction where
  id := id
  returns := returns
  signature := .fixed [.value t, .bag t]
  body := .kernel .valuesThenBags fun args =>
    match args.values, args.bags with
    | [v], [b] => .ok (run v b)
    | _, _ => .error (tooFew id args)

end Bags

end Xacml.Library
