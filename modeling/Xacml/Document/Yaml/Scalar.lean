/-
The scalars of YAML. In a scalar that goes over several lines a line end counts as a space, and
further ones as line ends; the blanks around them do not count.
-/
import Xacml.Document.Json
import Xacml.Document.Yaml.Spot

namespace Xacml.Document.Yaml

/-- What a run of blanks inside a scalar stands for. -/
def folded (blanks : List Char) : List Char :=
  match blanks.count '\n' with
  | 0 => blanks
  | 1 => [' ']
  | n + 2 => List.replicate (n + 1) '\n'

/-- The place after one more character of a given line and column. -/
def moved (c : Char) (line column : Nat) : Nat × Nat :=
  if c = '\n' then (line + 1, 0) else (line, column + 1)

/-! ## Plain scalars -/

def isBracket (c : Char) : Bool := ",[]\x7b\x7d".toList.contains c

/-- Whether a plain scalar may start here. -/
def startsPlain (flow : Bool) : List Char → Bool
  | [] => false
  | c :: rest =>
    if c = '-' then !endsWord rest
    else if c = '?' ∨ c = ':' then !flow && !endsWord rest
    else !isBlank c && !isBracket c && !"#&*!|>'\"%@\x60".toList.contains c

/-- Whether a plain scalar ends before `c`, with `rest` after it. -/
def endsPlain (flow : Bool) (c : Char) (rest : List Char) : Bool :=
  (c == ':' && endsWord rest) || (flow && isBracket c)

/-- Reads a plain scalar, and the blanks after it. A further line must be indented by `indent`;
`gap` are the blanks just read. -/
def plainFrom (flow : Bool) (indent : Nat) (anchors : List (String × Node)) :
    List Char → Nat → Nat → List Char → Option (List Char × Spot)
  | _, line, column, [] => some ([], ⟨[], line, column, anchors⟩)
  | gap, line, column, c :: rest =>
    let onNewLine := gap.contains '\n'
    let here : Spot := ⟨c :: rest, line, column, anchors⟩
    if isBlank c then
      if c == '\t' && onNewLine && column < indent then none
      else
        let (line', column') := moved c line column
        plainFrom flow indent anchors (gap ++ [c]) line' column' rest
    else if !gap.isEmpty && (c == '#' || here.isEnd || (onNewLine && !flow && column < indent)) then
      some ([], here)
    else if flow && c == ':' && rest.head?.any (fun d => d == '?' || isBracket d) then none
    else if endsPlain flow c rest then some ([], here)
    else do
      let (more, after) ← plainFrom flow indent anchors [] line (column + 1) rest
      some (folded gap ++ c :: more, after)

/-! ## Quoted scalars -/

/-- Reads a scalar after its opening single quote; a quote in it is written twice. -/
def singleFrom (anchors : List (String × Node)) :
    List Char → Nat → Nat → List Char → Option (List Char × Spot)
  | _, _, _, [] => none
  | gap, line, column, c :: rest =>
    if column = 0 ∧ isMarker (c :: rest) then none
    else if isBlank c then
      let (line', column') := moved c line column
      singleFrom anchors (gap ++ [c]) line' column' rest
    else if c = '\'' then
      match rest with
      | '\'' :: more => do
        let (t, after) ← singleFrom anchors [] line (column + 2) more
        some (folded gap ++ '\'' :: t, after)
      | _ => some (folded gap, ⟨rest, line, column + 1, anchors⟩)
    else do
      let (t, after) ← singleFrom anchors [] line (column + 1) rest
      some (folded gap ++ c :: t, after)

/-- The escapes of one character. -/
def escapes : List (Char × Char) :=
  [('0', '\x00'), ('a', '\x07'), ('b', '\x08'), ('t', '\t'), ('\t', '\t'), ('n', '\n'),
    ('v', '\x0b'), ('f', '\x0c'), ('r', '\r'), ('e', '\x1b'), (' ', ' '), ('"', '"'), ('/', '/'),
    ('\\', '\\'), ('N', '\u0085'), ('_', '\u00a0'), ('L', '\u2028'), ('P', '\u2029')]

/-- How many digits follow a numbered escape. -/
def escapeWidths : List (Char × Nat) := [('x', 2), ('u', 4), ('U', 8)]

/-- The character of an escape, after its backslash, and how many characters it took. -/
def escapeOf (s : List Char) : Option (Char × Nat) := do
  let c ← s.head?
  match escapes.lookup c with
  | some d => some (d, 1)
  | none =>
    let width ← escapeWidths.lookup c
    let digits := s.tail.take width
    if digits.length = width then
      let n ← numberIn? 16 digits
      if n.isValidChar then some (Char.ofNat n, width + 1) else none
    else none

/-- Reads a scalar after its opening double quote. A line end after a backslash is dropped, with
the blanks that follow. -/
def doubleFrom (anchors : List (String × Node)) :
    Nat → List Char → Nat → Nat → List Char → Option (List Char × Spot)
  | 0, _, _, _, _ => none
  | _, _, _, _, [] => none
  | fuel + 1, gap, line, column, c :: rest =>
    if column = 0 ∧ isMarker (c :: rest) then none
    else if isBlank c then
      let (line', column') := moved c line column
      doubleFrom anchors fuel (gap ++ [c]) line' column' rest
    else if c = '"' then some (folded gap, ⟨rest, line, column + 1, anchors⟩)
    else if c = '\\' then
      match rest with
      | '\n' :: more => do
        let blanks := more.takeWhile isSpace
        let (t, after) ← doubleFrom anchors fuel [] (line + 1) blanks.length
          (more.drop blanks.length)
        some (folded gap ++ t, after)
      | _ => do
        let (d, width) ← escapeOf rest
        let (t, after) ← doubleFrom anchors fuel [] line (column + 1 + width) (rest.drop width)
        some (folded gap ++ d :: t, after)
    else do
      let (t, after) ← doubleFrom anchors fuel [] line (column + 1) rest
      some (folded gap ++ c :: t, after)

/-! ## Block scalars -/

/-- What becomes of the line ends at the end of a block scalar. -/
inductive Chomping where
  | clip
  | strip
  | keep

/-- Reads the indicators of a block scalar: how line ends are treated, and how deep it is. -/
def blockHeader : List Char → Chomping × Option Nat × List Char
  | '+' :: rest => let (depth, rest) := depthOf rest; (.keep, depth, rest)
  | '-' :: rest => let (depth, rest) := depthOf rest; (.strip, depth, rest)
  | s =>
    match depthOf s with
    | (some depth, '+' :: rest) => (.keep, some depth, rest)
    | (some depth, '-' :: rest) => (.strip, some depth, rest)
    | (depth, rest) => (.clip, depth, rest)
where
  depthOf : List Char → Option Nat × List Char
    | c :: rest =>
      if '1' ≤ c ∧ c ≤ '9' then (some (c.toNat - '0'.toNat), rest) else (none, c :: rest)
    | [] => (none, [])

/-- Splits a text into lines, without their ends. -/
def linesOf (s : List Char) : List (List Char) :=
  let (line, rest) := s.foldr
    (fun c (line, rest) => if c = '\n' then ([], line :: rest) else (c :: line, rest)) ([], [])
  line :: rest

def indentation (line : List Char) : Nat := (line.takeWhile (· == ' ')).length

/-- Whether a line belongs to a block scalar of this depth. -/
def isInside (depth : Nat) (line : List Char) : Bool :=
  depth ≤ indentation line || indentation line == line.length

/-- The lines of a scalar joined, with single line ends between full lines folded. -/
def joinLines (fold : Bool) : List (List Char) → List Char
  | [] => []
  | [line] => line
  | line :: next :: rest =>
    let isFull (l : List Char) := !l.isEmpty && !l.head?.any isSpace
    let separator := if fold && isFull line && isFull next then ' ' else '\n'
    line ++ separator :: joinLines fold (next :: rest)

/-- Reads a block scalar after its indicator; `parent` is the indentation around it. -/
def blockScalar (fold : Bool) (parent : Nat) (s : Spot) : Option (List Char × Spot) := do
  let (chomping, depth?, rest) := blockHeader s.rest
  let lines := linesOf rest
  let header ← lines.head?
  let comment := header.dropWhile isSpace
  if !(comment.isEmpty || comment.head? == some '#') then none
  else
    let body := lines.tail
    let least := match depth? with
      | some depth => parent + depth
      | none =>
        let leading := body.takeWhile fun l => indentation l == l.length
        let first := (body.drop leading.length).head?.map indentation
        max (parent + 1) (first.getD 0)
    let inside := body.takeWhile (isInside least)
    let isTabbed (l : List Char) :=
      (l.drop (indentation l)).head? == some '\t' && indentation l < least
    if inside.any isTabbed then none
    else
      let outside := body.drop inside.length
      let content := inside.map (·.drop least)
      let full := (content.reverse.dropWhile List.isEmpty).reverse
      let t := joinLines fold full ++ match chomping with
        | .strip => []
        | .clip => if full.isEmpty then [] else ['\n']
        | .keep => List.replicate (content.length - full.length) '\n'
      let after : List Char := ['\n'].intercalate outside
      some (t, { s with rest := after, line := s.line + 1 + inside.length, column := 0 })

end Xacml.Document.Yaml
