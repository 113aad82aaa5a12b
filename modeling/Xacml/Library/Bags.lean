/-
Functions on bags, declared for every type: taking the one value out, counting, membership, making
a bag, and the set operations.
-/
import Xacml.Bag.Sets
import Xacml.Library.Kernel

namespace Xacml.Library

section OfType

variable (t : AttributeType)

/-- The value of a bag that holds exactly one. -/
def oneAndOnly : FirstOrderFunction :=
  ofBag (typedId t "one-and-only") (.value t) t fun b => do
    match ← b.single? with
    | some v => return .single v
    | none => .error (.of (.noElement b.element))

def bagSize : FirstOrderFunction :=
  ofBag (typedId t "bag-size") .integer t fun b =>
    match Integer.ofInt? b.size with
    | some i => .ok (.single (.integer i))
    | none => .error (.of .bagSize)

def isIn : FirstOrderFunction :=
  ofValueAndBag (typedId t "is-in") .boolean t fun v b => .ofBool (b.contains v)

/-- The bag of the arguments. -/
def makeBag : FirstOrderFunction :=
  variadic (typedId t "bag") (.bag t) t 0 fun values => (Bag.checked t values).map .bag

def intersection : FirstOrderFunction :=
  ofTwoBags (typedId t "intersection") (.bag t) t fun a b => .bag (a.intersection b)

/-- The parameters vouch for the types of the values. Where an argument that was evaluated is not of
its type, there is no union, and the program stops. -/
def union : FirstOrderFunction :=
  ofManyBags (typedId t "union") (.bag t) t fun bags =>
    match Bag.union t bags with
    | some b => .ok (.bag b)
    | none => .error (.of (.assertion t))

/-- A function that relates two bags. -/
def bagRelation (name : String) (related : Bag → Bag → Bool) : FirstOrderFunction :=
  ofTwoBags (typedId t name) .boolean t fun a b => .ofBool (related a b)

def bagsOf : List FirstOrderFunction :=
  [oneAndOnly t, bagSize t, isIn t, makeBag t, intersection t, union t,
    bagRelation t "at-least-one-member-of" Bag.meets,
    bagRelation t "subset" Bag.isSubset,
    bagRelation t "set-equals" Bag.setEquals]

end OfType

def bags : List FirstOrderFunction := AttributeType.all.flatMap bagsOf

end Xacml.Library
