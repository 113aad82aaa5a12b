/-
Set operations on bags. They see a bag as the set of its values: results hold no value twice, and
keep each value where it first occurs. An intersection has the element type of its first operand; for
a union the caller names it, and vouches that all the values are of it.
-/
import Xacml.Bag.Basic

namespace Xacml.Bag

/-- The values of the first bag that the second has too. -/
def intersection (a b : Bag) : Bag :=
  ofList a.element (a.distinct.filter b.contains) fun _ hv =>
    type_of_mem (mem_firstOccurrences (List.mem_filter.1 hv).1)

/-- The values of all the bags; `none` where they are not all of the element type, which stops the
program. -/
def union (element : AttributeType) (bags : List Bag) : Option Bag :=
  ofList? element (firstOccurrences (bags.flatMap values))

theorem types_of_union {t : AttributeType} {bags : List Bag} (h : ∀ b ∈ bags, b.element = t) :
    ∀ v ∈ firstOccurrences (bags.flatMap values), v.type = t := by
  refine types_firstOccurrences.2 fun v hv => ?_
  obtain ⟨b, hb, hv⟩ := List.mem_flatMap.1 hv
  exact (type_of_mem hv).trans (h b hb)

/-- Bags of the element type have a union. -/
theorem union_of_types {t : AttributeType} {bags : List Bag} (h : ∀ b ∈ bags, b.element = t) :
    union t bags = some (ofList t (firstOccurrences (bags.flatMap values)) (types_of_union h)) :=
  ofList?_eq_some_iff.2 ⟨_, rfl⟩

/-- Bags have a union if all that they hold is of the element type, and otherwise none. -/
theorem exists_union_iff {t : AttributeType} {bags : List Bag} :
    (∃ b, union t bags = some b) ↔ ∀ a ∈ bags, ∀ v ∈ a.values, v.type = t := by
  have htypes : (∃ b, union t bags = some b) ↔
      ∀ v ∈ firstOccurrences (bags.flatMap values), v.type = t := by
    constructor
    · rintro ⟨b, hb⟩
      exact (ofList?_eq_some_iff.1 hb).1
    · exact fun h => ⟨_, ofList?_eq_some_iff.2 ⟨h, rfl⟩⟩
  rw [htypes, types_firstOccurrences]
  simp only [List.mem_flatMap]
  exact ⟨fun h a ha v hv => h v ⟨a, ha, hv⟩, fun h v ⟨a, ha, hv⟩ => h a ha v hv⟩

/-- Whether some value is in both bags. -/
def meets (a b : Bag) : Bool := a.values.any b.contains

/-- Whether every value of the first bag is in the second. -/
def isSubset (a b : Bag) : Bool := a.values.all b.contains

/-- Whether the bags hold the same values, however often: as many of them, and those of the first are
in the second. -/
def setEquals (a b : Bag) : Bool :=
  a.distinct.length == b.distinct.length && a.distinct.all b.contains

end Xacml.Bag
