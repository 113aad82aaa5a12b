/-
White space as Unicode's property `White_Space` lists it, and trimming. Trimming cuts a text into
a blank start, a core that neither begins nor ends with a blank, and a blank end.
-/
namespace Xacml.Text

/-- The code points with the property `White_Space`, in ascending order. -/
def blanks : List Nat :=
  [0x09, 0x0A, 0x0B, 0x0C, 0x0D, 0x20, 0x85, 0xA0, 0x1680, 0x2000, 0x2001, 0x2002, 0x2003, 0x2004,
    0x2005, 0x2006, 0x2007, 0x2008, 0x2009, 0x200A, 0x2028, 0x2029, 0x202F, 0x205F, 0x3000]

def isBlank (c : Char) : Bool := blanks.contains c.toNat

/-- The text without its leading blanks. -/
def trimStart (s : List Char) : List Char := s.dropWhile isBlank

/-- The text without its trailing blanks. -/
def trimEnd (s : List Char) : List Char := (trimStart s.reverse).reverse

def trim (s : List Char) : List Char := trimEnd (trimStart s)

/-- The trimmed form of a string. -/
def trimmed (s : String) : String := String.ofList (trim s.toList)

/-! ## Small laws -/

theorem trimStart_eq_self {s : List Char} (h : ∀ c ∈ s.head?, isBlank c = false) :
    trimStart s = s := by
  cases s with
  | nil => rfl
  | cons c s => simp [trimStart, h c (by simp)]

/-- What trimming the start removes is blank. -/
theorem takeWhile_append_trimStart (s : List Char) :
    s.takeWhile isBlank ++ trimStart s = s := List.takeWhile_append_dropWhile

theorem head_trimStart (s : List Char) : ∀ c ∈ (trimStart s).head?, isBlank c = false := by
  intro c hc
  induction s with
  | nil => simp [trimStart] at hc
  | cons d s ih =>
    by_cases h : isBlank d = true
    · exact ih (by simpa [trimStart, h] using hc)
    · simp only [trimStart, List.dropWhile_cons, h] at hc
      simp only [Bool.false_eq_true, ↓reduceIte, List.head?_cons, Option.mem_def,
        Option.some.injEq] at hc
      subst hc
      simpa using h

theorem trimStart_trimStart (s : List Char) : trimStart (trimStart s) = trimStart s :=
  trimStart_eq_self (head_trimStart s)

end Xacml.Text
