/-
Bags: finite multisets of attribute values of one element type. The values keep the order in which
they were put in, but equality counts occurrences and does not see the order. An empty bag may say
why it is empty. Every value is of the element type: the checked constructor refuses other values,
and where a caller vouches for the values unseen, other values stop the program.
-/
import Xacml.Failure

namespace Xacml

/-- How a bag holds its values: one on its own, several in a list, and none with perhaps the reason
for it. -/
inductive Bag.Contents where
  | empty (reason : Option Failure)
  | single (v : AttributeValue)
  | multi (values : List AttributeValue)
deriving DecidableEq

namespace Bag.Contents

/-- The contents of a list of values, held as befits their number. -/
def ofList : List AttributeValue → Contents
  | [] => .empty none
  | [v] => .single v
  | values => .multi values

/-- The values in order, repetitions included. -/
def values : Contents → List AttributeValue
  | .empty _ => []
  | .single v => [v]
  | .multi values => values

@[simp] theorem values_ofList (vs : List AttributeValue) : (ofList vs).values = vs := by
  rcases vs with _ | ⟨v, _ | ⟨w, rest⟩⟩ <;> rfl

end Bag.Contents

structure Bag where
  element : AttributeType
  contents : Bag.Contents
  homogeneous : ∀ v ∈ contents.values, v.type = element
deriving DecidableEq

namespace Bag

/-! ## Construction -/

/-- The bag of a list of values of the element type, in its order. -/
def ofList (element : AttributeType) (values : List AttributeValue)
    (h : ∀ v ∈ values, v.type = element) : Bag :=
  ⟨element, .ofList values, by rwa [Contents.values_ofList]⟩

/-- The bag of a list of values for whose types the caller vouches. That all are of the element type
is asserted: if one is not, there is no bag, and the program stops. -/
def ofList? (element : AttributeType) (values : List AttributeValue) : Option Bag :=
  if h : ∀ v ∈ values, v.type = element then some (ofList element values h) else none

def empty (element : AttributeType) : Bag := ⟨element, .empty none, List.forall_mem_nil _⟩

/-- An empty bag that says why it is empty. -/
def emptyBecause (element : AttributeType) (reason : Failure) : Bag :=
  ⟨element, .empty (some reason), List.forall_mem_nil _⟩

def singleton (v : AttributeValue) : Bag := ⟨v.type, .single v, List.forall_mem_singleton.2 rfl⟩

/-- The position and type of the first value that is not of type `element`. -/
def firstStranger? (element : AttributeType) : Nat → List AttributeValue →
    Option (Nat × AttributeType)
  | _, [] => none
  | i, v :: rest =>
    if v.type = element then firstStranger? element (i + 1) rest else some (i, v.type)

theorem firstStranger?_eq_none_iff {t : AttributeType} {vs : List AttributeValue} (index : Nat) :
    firstStranger? t index vs = none ↔ ∀ v ∈ vs, v.type = t := by
  induction vs generalizing index with
  | nil => simp [firstStranger?]
  | cons v rest ih =>
    rw [firstStranger?, List.forall_mem_cons]
    by_cases hv : v.type = t
    · rw [if_pos hv, ih]
      exact (and_iff_right hv).symm
    · rw [if_neg hv]
      exact ⟨nofun, fun h => absurd h.1 hv⟩

/-- The bag of a list of values, all of which must have the element type. -/
def checked (element : AttributeType) (values : List AttributeValue) : Except Failure Bag :=
  match h : firstStranger? element 0 values with
  | some (i, got) => .error (.of (.element i element got))
  | none => .ok (ofList element values ((firstStranger?_eq_none_iff 0).1 h))

/-! ## Views -/

/-- The values in order, repetitions included. -/
def values (b : Bag) : List AttributeValue := b.contents.values

theorem type_of_mem {b : Bag} {v : AttributeValue} (h : v ∈ b.values) : v.type = b.element :=
  b.homogeneous v h

/-- Why an empty bag is empty, if it says. -/
def reason? (b : Bag) : Option Failure :=
  match b.contents with
  | .empty reason => reason
  | .single _ | .multi _ => none

def size (b : Bag) : Nat := b.values.length

def isEmpty (b : Bag) : Bool :=
  match b.contents with
  | .empty _ => true
  | .single _ | .multi _ => false

/-- How often a value occurs among others. -/
def occurrences (v : AttributeValue) (vs : List AttributeValue) : Nat := vs.countP (·.same v)

def count (v : AttributeValue) (b : Bag) : Nat := occurrences v b.values

def contains (b : Bag) (v : AttributeValue) : Bool := b.values.any (·.same v)

/-- The values without repetitions, each where it occurs first. -/
def firstOccurrences : List AttributeValue → List AttributeValue
  | [] => []
  | v :: rest => v :: (firstOccurrences rest).filter fun w => !w.same v

theorem mem_firstOccurrences {v : AttributeValue} {vs : List AttributeValue}
    (h : v ∈ firstOccurrences vs) : v ∈ vs := by
  induction vs with
  | nil => cases h
  | cons w rest ih =>
    rcases List.mem_cons.1 h with rfl | h
    · exact List.mem_cons_self
    · exact List.mem_cons_of_mem _ (ih (List.mem_filter.1 h).1)

/-- A value that is left out has the type of the one that stands for it. -/
theorem types_firstOccurrences {t : AttributeType} {vs : List AttributeValue} :
    (∀ v ∈ firstOccurrences vs, v.type = t) ↔ ∀ v ∈ vs, v.type = t := by
  refine ⟨fun h => ?_, fun h v hv => h v (mem_firstOccurrences hv)⟩
  induction vs with
  | nil => exact List.forall_mem_nil _
  | cons v rest ih =>
    rw [firstOccurrences, List.forall_mem_cons] at h
    refine List.forall_mem_cons.2 ⟨h.1, ih fun w hw => ?_⟩
    by_cases hsame : w.same v = true
    · exact (AttributeValue.type_eq_of_same hsame).trans h.1
    · exact h.2 w (List.mem_filter.2 ⟨hw, by simpa using hsame⟩)

def distinct (b : Bag) : List AttributeValue := firstOccurrences b.values

/-- Each distinct value with the number of its occurrences. -/
def numbered (vs : List AttributeValue) : List (AttributeValue × Nat) :=
  (firstOccurrences vs).map fun v => (v, occurrences v vs)

def elements (b : Bag) : List (AttributeValue × Nat) := numbered b.values

/-! ## Equality -/

/-- Whether two bags are equal as multisets of one element type. -/
def same (a b : Bag) : Bool :=
  a.element == b.element && a.size == b.size && a.values.all fun v => a.count v == b.count v

instance : BEq Bag := ⟨same⟩

/-- The value of a bag of at most one. -/
def single? (b : Bag) : Except Failure (Option AttributeValue) :=
  match b.contents with
  | .empty _ => .ok none
  | .single v => .ok (some v)
  | .multi values => .error (.of (.tooManyElements b.element values.length))

def text (b : Bag) : String :=
  s!"bag<{b.element}>[" ++ ", ".intercalate (b.values.map AttributeValue.text) ++ "]"

/-! ## Small laws -/

section OfList

variable {t : AttributeType} {vs : List AttributeValue} (h : ∀ v ∈ vs, v.type = t)

@[simp] theorem values_ofList : (ofList t vs h).values = vs := Contents.values_ofList vs

@[simp] theorem element_ofList : (ofList t vs h).element = t := rfl

@[simp] theorem reason?_ofList : (ofList t vs h).reason? = none := by
  rcases vs with _ | ⟨v, _ | ⟨w, rest⟩⟩ <;> rfl

@[simp] theorem isEmpty_ofList : (ofList t vs h).isEmpty = vs.isEmpty := by
  rcases vs with _ | ⟨v, _ | ⟨w, rest⟩⟩ <;> rfl

end OfList

section

variable {t : AttributeType} {vs : List AttributeValue} {b : Bag}

/-- What is vouched for has to be so. -/
theorem ofList?_eq_some_iff : ofList? t vs = some b ↔ ∃ h, b = ofList t vs h := by
  unfold ofList?
  split
  · rename_i h
    exact ⟨by rintro ⟨⟩; exact ⟨h, rfl⟩, by rintro ⟨_, rfl⟩; rfl⟩
  · rename_i h
    exact ⟨nofun, fun ⟨h', _⟩ => absurd h' h⟩

theorem checked_of_types (h : ∀ v ∈ vs, v.type = t) : checked t vs = .ok (ofList t vs h) := by
  unfold checked
  split
  · rename_i hstranger
    cases hstranger.symm.trans ((firstStranger?_eq_none_iff 0).2 h)
  · rfl

/-- The checked constructor accepts just the values of the element type. -/
theorem checked_eq_ok_iff : checked t vs = .ok b ↔ ∃ h, b = ofList t vs h := by
  constructor
  · intro hb
    unfold checked at hb
    split at hb <;> cases hb
    exact ⟨_, rfl⟩
  · rintro ⟨h, rfl⟩
    exact checked_of_types h

theorem exists_checked_iff : (∃ b, checked t vs = .ok b) ↔ ∀ v ∈ vs, v.type = t :=
  ⟨fun ⟨_, h⟩ => (checked_eq_ok_iff.1 h).1, fun h => ⟨_, checked_of_types h⟩⟩

end

/-- A reason is only ever recorded for an empty bag. -/
theorem values_eq_nil_of_reason? {b : Bag} {r : Failure} (h : b.reason? = some r) :
    b.values = [] := by
  unfold reason? at h
  unfold values Contents.values
  split at h <;> simp_all

end Bag

end Xacml
