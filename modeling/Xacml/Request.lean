/-
Where evaluation finds attributes and content. A `Context` answers lookups; a `Request` is a
context held in memory: values filed under attribute names, in the order in which the names first
came up, and content by category. A name without an issuer asks for every issuer.
-/
import Xacml.Bag.Source

namespace Xacml

/-! ## Names -/

/-- The full name of an attribute. -/
structure AttributeName where
  category : String
  id : String
  issuer : Option String
deriving DecidableEq, Repr

namespace AttributeName

def text (n : AttributeName) : String :=
  n.category ++ "#" ++ n.id ++ match n.issuer with
    | some issuer => " (issuer: " ++ issuer ++ ")"
    | none => ""

/-- Whether an attribute named `other` answers a lookup of `n`. -/
def matchesName (n other : AttributeName) : Bool :=
  n.category == other.category && n.id == other.id && (n.issuer.isNone || n.issuer == other.issuer)

end AttributeName

/-! ## Contexts -/

/-- The content of a category. All that is known of it is which texts a location selects. -/
structure Content where
  select : String → Except Failure (List String)

/-- What evaluation may ask of a request. -/
structure Context where
  /-- The values of an attribute that have the given type, `none` if the attribute is unknown. -/
  attributeBag : AttributeName → AttributeType → Except Failure (Option AttributeBag)
  /-- The content of a category. -/
  content : String → Option Content

/-- The context in which every lookup of an attribute fails. -/
def Context.failing (c : Context) (failure : Failure) : Context :=
  { c with attributeBag := fun _ _ => .error failure }

/-! ## Requests -/

structure Request where
  attributes : List (AttributeName × List AttributeValue)
  contents : List (String × Content)

namespace Request

def empty : Request := ⟨[], []⟩

/-- Files values under a name, after those that it already has. -/
def file (name : AttributeName) (values : List AttributeValue) :
    List (AttributeName × List AttributeValue) → List (AttributeName × List AttributeValue)
  | [] => [(name, values)]
  | (n, vs) :: rest =>
    if n = name then (n, vs ++ values) :: rest else (n, vs) :: file name values rest

def addValues (r : Request) (name : AttributeName) (values : List AttributeValue) : Request :=
  { r with attributes := file name values r.attributes }

def addValue (r : Request) (name : AttributeName) (value : AttributeValue) : Request :=
  r.addValues name [value]

/-- Sets the content of a category, in place of any that it has. -/
def setContent (r : Request) (category : String) (content : Content) : Request :=
  { r with contents := (category, content) :: r.contents.filter (·.1 != category) }

/-- The entries that answer a lookup. -/
def answering (r : Request) (name : AttributeName) : List (AttributeName × List AttributeValue) :=
  r.attributes.filter fun entry => name.matchesName entry.1

/-- The values of type `type` of an attribute; `none` if no entry answers the lookup. -/
def attributeBag? (r : Request) (name : AttributeName) (type : AttributeType) :
    Option AttributeBag :=
  match r.answering name with
  | [] => none
  | entries =>
    some (.ofSource
      (.ofList type ((entries.flatMap (·.2)).filter (·.type == type)) fun _ hv =>
        eq_of_beq (List.mem_filter.1 hv).2)
      .request)

def content? (r : Request) (category : String) : Option Content :=
  (r.contents.find? (·.1 == category)).map (·.2)

/-- The request as a context. -/
def context (r : Request) : Context where
  attributeBag name type := .ok (r.attributeBag? name type)
  content := r.content?

end Request

end Xacml
