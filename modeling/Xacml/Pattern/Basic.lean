/-
Regular patterns and the texts in which they occur. Matching works on marks: one truth value for
each position of the text, from before the first character to after the last. A pattern carries
marks on the positions where a match may start to marks on the positions where one may end, so a
repetition is an iteration that stops as soon as the marks stand still.
-/
import Xacml.Unicode.Casing
import Xacml.Unicode.Category

namespace Xacml

/-- A condition on the characters before and after a position. -/
inductive Pattern.Assertion where
  | textStart
  | textEnd
  | lineStart
  | lineEnd
  | lineStartCrlf
  | lineEndCrlf
  | wordBoundary
  | notWordBoundary
  | wordStart
  | wordEnd
  | wordStartHalf
  | wordEndHalf
deriving DecidableEq, Repr

inductive Pattern where
  | empty
  | one (set : Unicode.CodeSet)
  | look (assertion : Pattern.Assertion) (word : Unicode.CodeSet)
  | sequence (first second : Pattern)
  | choice (first second : Pattern)
  | repetition (body : Pattern) (least : Nat) (most : Option Nat)
deriving Repr, DecidableEq

namespace Pattern

/-! ## Assertions -/

/-- Whether an assertion holds between two neighbours; `none` stands for the end of the text. -/
def Assertion.holds (a : Assertion) (word : Unicode.CodeSet) (before after : Option Char) : Bool :=
  let isWord : Option Char → Bool
    | some c => word.contains c.toNat
    | none => false
  match a with
  | .textStart => before.isNone
  | .textEnd => after.isNone
  | .lineStart => before.isNone || before == some '\n'
  | .lineEnd => after.isNone || after == some '\n'
  | .lineStartCrlf => before.isNone || before == some '\n' ||
      (before == some '\r' && after != some '\n')
  | .lineEndCrlf => after.isNone || after == some '\r' ||
      (after == some '\n' && before != some '\r')
  | .wordBoundary => isWord before != isWord after
  | .notWordBoundary => isWord before == isWord after
  | .wordStart => !isWord before && isWord after
  | .wordEnd => isWord before && !isWord after
  | .wordStartHalf => !isWord before
  | .wordEndHalf => !isWord after

/-- The positions of a text at which an assertion holds, from the one after `before` on. -/
def Assertion.marks (a : Assertion) (word : Unicode.CodeSet) (before : Option Char) :
    List Char → List Bool
  | [] => [a.holds word before none]
  | c :: rest => a.holds word before (some c) :: a.marks word (some c) rest

/-! ## Matching -/

def both : List Bool → List Bool → List Bool := List.zipWith and

def either : List Bool → List Bool → List Bool := List.zipWith or

/-- Applies `step` `n` times, or until it changes nothing. -/
def iterate (step : List Bool → List Bool) : Nat → List Bool → List Bool
  | 0, m => m
  | n + 1, m =>
    let next := step m
    if next == m then m else iterate step n next

/-- Carries marks on starts of a match to marks on its ends. -/
def carry (text : List Char) : Pattern → List Bool → List Bool
  | empty, m => m
  | one set, m => false :: List.zipWith (fun b c => b && set.contains c.toNat) m text
  | look a word, m => both m (a.marks word none text)
  | sequence p q, m => carry text q (carry text p m)
  | choice p q, m => either (carry text p m) (carry text q m)
  | repetition p least most, m =>
    let started := iterate (carry text p) least m
    let more := match most with
      | some n => n - least
      | none => text.length + 1
    iterate (fun marks => either marks (carry text p marks)) more started

/-- Whether the pattern matches anywhere in the text. -/
def occursIn (p : Pattern) (text : List Char) : Bool :=
  (carry text p (List.replicate (text.length + 1) true)).any id

/-! ## Size -/

/-- The bytes of a compiled set: one state, or for characters of several bytes one for each byte of
each of its ranges. -/
def setSize (s : Unicode.CodeSet) : Nat :=
  if s.ranges.all fun r => r.2 ≤ 0x80 then 32 + 8 * (s.ranges.length - 1)
  else 32 * (s.ranges.length + 2)

/-- An estimate of the bytes that the compiled pattern takes. -/
def size : Pattern → Nat
  | empty => 32
  | one set => setSize set
  | look _ _ => 32
  | sequence p q => p.size + q.size
  | choice p q => 32 + p.size + q.size
  | repetition p least none => 64 + max least 1 * p.size
  | repetition p least (some most) => 32 + most * p.size + 32 * (most - least)

/-- A pattern that takes more is refused. -/
def sizeLimit : Nat := 10 * (1 <<< 20)

end Pattern

end Xacml
