/-
Bags of attributes, with the source of the values. A bag with values always has a source.
-/
import Xacml.Bag.Basic

namespace Xacml

/-- Where the values of an attribute came from. -/
inductive Source where
  | request
  | policyDefault
  | provider (name : String)
deriving DecidableEq, Repr

def Source.text : Source → String
  | .request => "request"
  | .policyDefault => "policy default"
  | .provider name => "provider '" ++ name ++ "'"

structure AttributeBag where
  bag : Bag
  source : Option Source
  sourced : source = none → bag.isEmpty = true

namespace AttributeBag

/-- An empty bag without a source, perhaps with the reason why it is empty. -/
def empty (element : AttributeType) (reason : Option Failure) : AttributeBag where
  bag := match reason with
    | some reason => .emptyBecause element reason
    | none => .empty element
  source := none
  sourced _ := by cases reason <;> rfl

def ofSource (bag : Bag) (source : Source) : AttributeBag := ⟨bag, some source, nofun⟩

/-- A bag and the source of its values; a bag with values must have one. -/
def checked (bag : Bag) (source : Option Source) : Except Failure AttributeBag :=
  if h : source = none → bag.isEmpty = true then .ok ⟨bag, source, h⟩
  else .error (.of (.noSource bag.element))

/-- Equality of bags as multisets and of sources. -/
def same (a b : AttributeBag) : Bool := a.bag.same b.bag && a.source == b.source

end AttributeBag

end Xacml
