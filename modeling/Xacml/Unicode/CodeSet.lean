/-
Sets of code points, held as ascending ranges, and the compact text in which the tables of this
library write them: a row of words, each a label and the length of the run that carries it.
-/
import Xacml.Text.Bytes

namespace Xacml.Unicode

/-- The number of code points. -/
def codeCount : Nat := 0x110000

/-- A set of code points: ranges `[start, past)` in ascending order, with gaps between them. -/
structure CodeSet where
  ranges : List (Nat × Nat)
deriving DecidableEq, Repr, Inhabited

namespace CodeSet

def empty : CodeSet := ⟨[]⟩

def full : CodeSet := ⟨[(0, codeCount)]⟩

def singleton (n : Nat) : CodeSet := ⟨[(n, n + 1)]⟩

/-- The code points from `first` to `last`. -/
def range (first last : Nat) : CodeSet := if first ≤ last then ⟨[(first, last + 1)]⟩ else empty

def contains (s : CodeSet) (n : Nat) : Bool := s.ranges.any fun (a, b) => a ≤ n && n < b

/-- Joins a range with those after it that it touches, in a list ordered by starts. -/
def joinFrom (a b : Nat) : List (Nat × Nat) → List (Nat × Nat)
  | [] => [(a, b)]
  | (c, d) :: rest => if c ≤ b then joinFrom a (max b d) rest else (a, b) :: joinFrom c d rest

/-- Joins ranges that touch, in a list ordered by starts. -/
def join : List (Nat × Nat) → List (Nat × Nat)
  | [] => []
  | (a, b) :: rest => joinFrom a b rest

/-- The set of any ranges. -/
def ofRanges (ranges : List (Nat × Nat)) : CodeSet :=
  ⟨join ((ranges.filter fun r => r.1 < r.2).mergeSort fun x y => x.1 ≤ y.1)⟩

def union (s t : CodeSet) : CodeSet := ofRanges (s.ranges ++ t.ranges)

/-- The gaps between ascending ranges, from `start` on. -/
def gaps (start : Nat) : List (Nat × Nat) → List (Nat × Nat)
  | [] => if start < codeCount then [(start, codeCount)] else []
  | (a, b) :: rest => if start < a then (start, a) :: gaps b rest else gaps b rest

def complement (s : CodeSet) : CodeSet := ⟨gaps 0 s.ranges⟩

def inter (s t : CodeSet) : CodeSet := (s.complement.union t.complement).complement

def diff (s t : CodeSet) : CodeSet := s.inter t.complement

/-- The code points in exactly one of two sets. -/
def symmDiff (s t : CodeSet) : CodeSet := (s.diff t).union (t.diff s)

end CodeSet

/-! ## Written tables -/

/-- The words of a text, which blanks and line ends separate. -/
def words (s : List Char) : List (List Char) :=
  let (word, rest) := s.foldr
    (fun c (word, rest) => if c = ' ' ∨ c = '\n' then ([], word :: rest) else (c :: word, rest)) ([], [])
  (word :: rest).filter (!·.isEmpty)

/-- Lays runs end to end from `start` on; a word is a label and a length. -/
def placeRuns (start : Nat) : List (List Char) → List (String × Nat × Nat)
  | [] => []
  | w :: rest =>
    let past := start + Text.digitsValue (w.dropWhile fun c => !c.isDigit)
    (String.ofList (w.takeWhile fun c => !c.isDigit), start, past) :: placeRuns past rest

/-- Reads a table of labelled runs that covers all code points. -/
def readRuns (s : String) : List (String × Nat × Nat) := placeRuns 0 (words s.toList)

/-- The set of the code points whose label satisfies `p`. -/
def ofRuns (runs : List (String × Nat × Nat)) (p : String → Bool) : CodeSet :=
  ⟨CodeSet.join ((runs.filter fun r => p r.1).map (·.2))⟩

/-- Reads the lengths of alternating runs, the first of them outside the set. -/
def readAlternating (start : Nat) : List (List Char) → List (Nat × Nat)
  | gap :: run :: rest =>
    let first := start + Text.digitsValue gap
    let past := first + Text.digitsValue run
    (first, past) :: readAlternating past rest
  | _ => []

def readSet (s : String) : CodeSet := ⟨readAlternating 0 (words s.toList)⟩

end Xacml.Unicode
