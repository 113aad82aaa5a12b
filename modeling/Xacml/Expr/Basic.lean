/-
Expressions. The leaves of an expression are constants and the places where evaluation asks the
world: designators of attributes, selectors of content, and leaves supplied from outside. An
application holds its function and arguments; a reference to a variable holds the variable's
definition, so that it goes on working when the variable is removed.
-/
import Xacml.Function.Basic
import Xacml.Request

namespace Xacml

/-! ## Leaves -/

/-- Who answers for a named attribute. -/
inductive Provider where
  /-- The request. -/
  | request
  /-- Someone else; `none` if there is not even an empty bag. -/
  | other (answer : Context → Except Failure (Option AttributeBag))

/-- Looks an attribute up. -/
structure Designator where
  name : AttributeName
  type : AttributeType
  mustBePresent : Bool
  provider : Provider

/-- A location path ready for use: from the path to its context, if there is one, it makes the
location at which content is asked for texts. -/
structure Path where
  source : String
  select : Content → Option String → Except Failure (List String)

/-- Selects values from the content of a category. -/
structure Selector where
  category : String
  path : Path
  contextSelector : Option String
  type : AttributeType
  mustBePresent : Bool

/-- A leaf whose value comes from outside, with the datatype that it declares. -/
structure Supplied where
  label : String
  datatype : Datatype
  answer : Option Context → Except Failure Value

/-- A leaf that is not a constant. -/
inductive Leaf where
  | designator (d : Designator)
  | selector (s : Selector)
  | supplied (s : Supplied)

namespace Designator

def label (d : Designator) : String :=
  "AttributeDesignator[" ++ d.name.text ++ ", " ++ d.type.name ++ "]"

end Designator

namespace Selector

def label (s : Selector) : String :=
  "AttributeSelector[" ++ s.category ++ ", " ++ s.path.source ++ ", " ++ s.type.name ++ "]"

end Selector

namespace Leaf

def datatype : Leaf → Datatype
  | designator d => .bag d.type
  | selector s => .bag s.type
  | supplied s => s.datatype

end Leaf

/-! ## Expressions -/

inductive Expr where
  | constant (value : Value)
  | leaf (l : Leaf)
  /-- A reference to a variable; `chain` counts the references on the longest path down. -/
  | reference (id : String) (definition : Expr) (chain : Nat)
  | apply (function : Function) (arguments : List Expr)

namespace Expr

/-- The value of an expression that has one whatever the context. -/
def value? : Expr → Option Value
  | constant v => some v
  | reference _ definition _ => definition.value?
  | leaf _ => none
  | apply _ _ => none

/-- The datatype of an application. That of `map` is a bag of what its function returns. -/
def applicationType (f : Function) (first : Option Value) : Datatype :=
  match f with
  | .firstOrder g => g.returns
  | .combinator .map =>
    match first with
    | some (.function (.firstOrder g)) =>
      match g.returns with
      | .value t => .bag t
      | d => d
    | _ => .boolean
  | .combinator _ => .boolean

/-- The datatype that an expression declares. -/
def datatype : Expr → Datatype
  | constant v => v.datatype
  | leaf l => l.datatype
  | reference _ definition _ => definition.datatype
  | apply f arguments => applicationType f (arguments.head?.bind value?)

/-! ## References to variables -/

mutual

/-- The variables that an expression refers to itself, each with its chain; their definitions are
not searched. -/
def references (e : Expr) : List (String × Nat) :=
  match e with
  | constant _ => []
  | leaf _ => []
  | reference id _ chain => [(id, chain)]
  | apply _ arguments => referencesOfAll arguments
termination_by structural e

def referencesOfAll (es : List Expr) : List (String × Nat) :=
  match es with
  | [] => []
  | e :: rest => references e ++ referencesOfAll rest
termination_by structural es

end

theorem referencesOfAll_eq (es : List Expr) : referencesOfAll es = es.flatMap references := by
  induction es with
  | nil => simp [referencesOfAll]
  | cons e rest ih => simp [referencesOfAll, ih]

end Expr

end Xacml
