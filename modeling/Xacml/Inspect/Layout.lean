/-
The layout of texts that show the structure of a value: quoted texts, lists, named tuples and
records. A quoted text escapes whatever would not show: marks that attach to the character before
them, and the code points without a glyph of their own.
-/
import Xacml.Unicode.Category
import Xacml.Unicode.Property

namespace Xacml.Inspect

/-! ## Quoted texts -/

/-- The code points without a glyph of their own; the space is not escaped. -/
def invisible : Unicode.CodeSet :=
  (Unicode.ofCategories ["Cc", "Cf", "Cs", "Co", "Cn", "Zl", "Zp", "Zs"]).diff (.singleton 0x20)

/-- The code points that are escaped by number. -/
def escaped : Unicode.CodeSet := invisible.union Unicode.graphemeExtend

def quotedChar (c : Char) : List Char :=
  if c = '\x00' then ['\\', '0']
  else if c = '\t' then ['\\', 't']
  else if c = '\r' then ['\\', 'r']
  else if c = '\n' then ['\\', 'n']
  else if c = '"' ∨ c = '\\' then ['\\', c]
  else if 0x20 ≤ c.toNat ∧ c.toNat < 0x7F then [c]
  else if escaped.contains c.toNat then
    ['\\', 'u', '\x7b'] ++ Nat.toDigits 16 c.toNat ++ ['\x7d']
  else [c]

/-- A text in quotes. -/
def quoted (s : String) : String :=
  String.ofList ('"' :: s.toList.flatMap quotedChar ++ ['"'])

/-! ## Structure -/

/-- A list of shown items. -/
def list (items : List String) : String := "[" ++ ", ".intercalate items ++ "]"

/-- A named tuple of one item. -/
def tuple (name item : String) : String := name ++ "(" ++ item ++ ")"

def optional : Option String → String
  | none => "None"
  | some s => tuple "Some" s

/-- A named record with its fields in order. -/
def record (name : String) (fields : List (String × String)) : String :=
  name ++ " \x7b " ++ ", ".intercalate (fields.map fun f => f.1 ++ ": " ++ f.2) ++ " \x7d"

def bool (b : Bool) : String := if b then "true" else "false"

end Xacml.Inspect
