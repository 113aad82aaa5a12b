/-
A bounded store of compiled patterns. Entries are in order of their last use, the most recent
first; a pattern that is used again moves to the front, and one that enters a full store drives out
the entry at the end. Texts that denote no pattern are never stored, and a store of capacity zero
stores nothing.
-/
import Xacml.Pattern.Reader

namespace Xacml.Pattern

structure Cache where
  capacity : Nat
  entries : List (String × Pattern)
deriving DecidableEq

namespace Cache

def empty (capacity : Nat) : Cache := ⟨capacity, []⟩

def size (c : Cache) : Nat := c.entries.length

/-- The entries without that of a text. -/
def without (c : Cache) (text : String) : List (String × Pattern) :=
  c.entries.filter (·.1 != text)

/-- Puts an entry in front, where it is the most recent one. -/
def use (c : Cache) (text : String) (p : Pattern) : Cache :=
  { c with entries := ((text, p) :: c.without text).take c.capacity }

/-- The pattern of a text, from the store or compiled, and the store after that. -/
def request (c : Cache) (text : String) : Option Pattern × Cache :=
  match c.entries.lookup text with
  | some p => (some p, c.use text p)
  | none =>
    match compile? text with
    | some p => (some p, c.use text p)
    | none => (none, c)

end Cache

end Xacml.Pattern
