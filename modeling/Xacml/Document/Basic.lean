/-
Documents: the data that JSON and YAML texts denote. Of numbers only the whole ones have a value
here; the others are kept as they are written.
-/
namespace Xacml

inductive Document where
  | null
  | boolean (b : Bool)
  | whole (n : Int)
  /-- A number that is not written as a whole number. -/
  | fractional (literal : String)
  | text (s : String)
  | list (items : List Document)
  /-- Entries in written order; a key may come up again. -/
  | record (entries : List (String × Document))
deriving Repr, Inhabited

namespace Document

/-- An optional text. -/
def ofText? (s : Option String) : Document := (s.map text).getD null

def ofNat (n : Nat) : Document := .whole n

def text? : Document → Option String
  | text s => some s
  | _ => none

def boolean? : Document → Option Bool
  | boolean b => some b
  | _ => none

/-- An unsigned 64-bit number. -/
def unsigned? : Document → Option Nat
  | whole n => if 0 ≤ n ∧ n < 0x10000000000000000 then some n.toNat else none
  | _ => none

/-- Reads a value that may be null. -/
def optional? {α : Type} (read : Document → Option α) : Document → Option (Option α)
  | null => some none
  | d => (read d).map some

/-- Pairs the items of a list with the names of fields; fields at the end may be missing. -/
def zipFields? : List String → List Document → Option (List (String × Document))
  | _, [] => some []
  | [], _ :: _ => none
  | name :: names, d :: ds => (zipFields? names ds).map ((name, d) :: ·)

/-- The fields of a record, each at most once. Entries under other keys do not count. -/
def recordFields? (names : List String) : Document → Option (List (String × Document))
  | record entries =>
    let known := entries.filter fun e => names.contains e.1
    if (known.map (·.1)).eraseDups.length = known.length then some known else none
  | _ => none

/-- The fields of a record, which may be written as a list of its fields. -/
def fields? (names : List String) : Document → Option (List (String × Document))
  | list items => zipFields? names items
  | d => recordFields? names d

/-- The field of a name; `missing` stands for one that is not written. -/
def field? {α : Type} (fields : List (String × Document)) (name : String)
    (read : Document → Option α) (missing : Option α) : Option α :=
  match fields.lookup name with
  | some d => read d
  | none => missing

/-- The case of a choice: its name alone, or a record of one entry with what the case holds. -/
def case? : Document → Option (String × Option Document)
  | text name => some (name, none)
  | record [(name, d)] => some (name, some d)
  | _ => none

/-- The name of a choice between cases that hold nothing. -/
def plainCase? (d : Document) : Option String :=
  match d.case? with
  | some (name, none) => some name
  | some (name, some .null) => some name
  | _ => none

end Document

end Xacml
