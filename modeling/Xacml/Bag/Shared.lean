/-
Bags as they are handed around. The copies of a bag of several values share the values: these are in a
cell, which also keeps their hash once it has been asked for. Equality looks first at what is cheap,
the sizes, whether there is but one cell, and the hashes, and only then counts. Cells are never freed
here, so that an address stands for one cell for good.
-/
import Xacml.Bag.Basic

namespace Xacml.Bag

/-- The values of a bag of several, and their hash if it has been asked for. -/
structure Cell where
  values : List AttributeValue
  memo : Option UInt64
deriving DecidableEq

/-- The cells that have been made, by address. -/
abbrev Heap := List Cell

/-- How a handle holds the values: several are in a cell, at an address. -/
inductive Handle.Contents where
  | empty (reason : Option Failure)
  | single (v : AttributeValue)
  | multi (address : Nat)
deriving DecidableEq

/-- A bag that shares its values with its copies. -/
structure Handle where
  element : AttributeType
  contents : Handle.Contents
deriving DecidableEq

/-! ## Making and reading -/

/-- The cell at an address, which is without values if it has not been made. -/
def Heap.cell (heap : Heap) (address : Nat) : Cell := heap.getD address ⟨[], none⟩

/-- A handle of a bag that has been made; several values go into a new cell. -/
def Heap.make (heap : Heap) (b : Bag) : Handle × Heap :=
  match b.contents with
  | .empty reason => (⟨b.element, .empty reason⟩, heap)
  | .single v => (⟨b.element, .single v⟩, heap)
  | .multi values => (⟨b.element, .multi heap.length⟩, heap ++ [⟨values, none⟩])

/-- The values behind a handle, in order. -/
def Handle.values (a : Handle) (heap : Heap) : List AttributeValue :=
  match a.contents with
  | .empty _ => []
  | .single v => [v]
  | .multi address => (heap.cell address).values

/-- The bag is the one behind the handle. -/
structure Handle.Holds (a : Handle) (heap : Heap) (b : Bag) : Prop where
  element : a.element = b.element
  values : a.values heap = b.values

theorem Heap.make_holds (heap : Heap) (b : Bag) : (heap.make b).1.Holds (heap.make b).2 b := by
  unfold make
  cases hb : b.contents with
  | empty reason => exact ⟨rfl, by rw [Bag.values, hb]; rfl⟩
  | single v => exact ⟨rfl, by rw [Bag.values, hb]; rfl⟩
  | multi values =>
    refine ⟨rfl, ?_⟩
    rw [Bag.values, hb]
    simp [Handle.values, Heap.cell, Contents.values]

/-! ## Hashing -/

section

variable (hash : AttributeValue → UInt64)

/-- The hash of some values, whatever their order: a sum that wraps around. -/
def sumOfHashes (values : List AttributeValue) : UInt64 := (values.map hash).foldl (· + ·) 0

/-- The hash of the values in a cell, which keeps it from then on. -/
def Cell.hashed (c : Cell) : UInt64 × Cell :=
  match c.memo with
  | some known => (known, c)
  | none =>
    let sum := sumOfHashes hash c.values
    (sum, { c with memo := some sum })

namespace Handle

/-- The hash of the values of a bag. -/
def contentHash (a : Handle) (heap : Heap) : UInt64 × Heap :=
  match a.contents with
  | .empty _ => (0, heap)
  | .single v => (hash v, heap)
  | .multi address =>
    let (sum, cell) := (heap.cell address).hashed hash
    (sum, heap.set address cell)

/-- What a hasher gets to see of a bag: the element type and the hash of the values. -/
def digest (a : Handle) (heap : Heap) : (AttributeType × UInt64) × Heap :=
  let (sum, heap) := a.contentHash hash heap
  ((a.element, sum), heap)

end Handle

end

/-! ## Equality -/

/-- Whether two lists of distinct values with their numbers hold the same numbers. -/
def sameNumbers (es fs : List (AttributeValue × Nat)) : Bool :=
  es.length == fs.length && es.all fun e => (fs.find? fun f => f.1.same e.1).any fun f => f.2 == e.2

/-- Whether two bags are equal, with the hashes that have been asked for on the way. -/
def Handle.equals (hash : AttributeValue → UInt64) (a b : Handle) (heap : Heap) : Bool × Heap :=
  if a.element ≠ b.element ∨ (a.values heap).length ≠ (b.values heap).length then (false, heap)
  else
    match a.contents, b.contents with
    | .multi p, .multi q =>
      if p = q then (true, heap)
      else
        let (x, heap) := a.contentHash hash heap
        let (y, heap) := b.contentHash hash heap
        (x == y && sameNumbers (numbered (a.values heap)) (numbered (b.values heap)), heap)
    | _, _ => ((a.values heap).isEqv (b.values heap) AttributeValue.same, heap)

end Xacml.Bag
