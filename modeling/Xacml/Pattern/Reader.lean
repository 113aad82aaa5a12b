/-
Reading patterns. A pattern is read in one pass from left to right, with the flags in force at each
place; a group is read by recursion and restores the flags of what surrounds it. Every step takes at
least one character, so the length of the text bounds the number of steps.
-/
import Xacml.Pattern.Mode

namespace Xacml.Pattern

open Unicode (CodeSet)

/-! ## Classes in brackets -/

/-- An operation on the sets left and right of it. -/
inductive SetOperation where
  | intersection
  | difference
  | symmetricDifference

/-- A set under construction: what stands left of the last operation, the union read since, the
number of its members, and how deeply they are nested. -/
structure SetDraft where
  left : Option (SetOperation × CodeSet × Nat)
  members : CodeSet
  count : Nat
  depth : Nat

namespace SetDraft

def start : SetDraft := ⟨none, .empty, 0, 0⟩

def add (d : SetDraft) (s : CodeSet) (depth : Nat) : SetDraft :=
  { d with members := d.members.union s, count := d.count + 1, depth := max d.depth depth }

/-- The depth of the union read so far; a union of one member is that member. -/
def unionDepth (d : SetDraft) : Nat := if 1 < d.count then d.depth + 1 else d.depth

/-- Completes the operation that waits for its right side. -/
def close (m : Mode) (d : SetDraft) : CodeSet × Nat :=
  match d.left with
  | none => (d.members, d.unionDepth)
  | some (op, left, depth) =>
    let l := caseClosed m left
    let r := caseClosed m d.members
    let set := match op with
      | .intersection => l.inter r
      | .difference => l.diff r
      | .symmetricDifference => l.symmDiff r
    (set, max depth d.unionDepth + 1)

def operate (m : Mode) (d : SetDraft) (op : SetOperation) : SetDraft :=
  let (set, depth) := d.close m
  ⟨some (op, set, depth), .empty, 0, 0⟩

end SetDraft

/-- A member of a class: one character, or a set. -/
inductive Member where
  | char (c : Char) (byte : Bool)
  | set (s : CodeSet)

/-- Reads a character or an escape of a class. -/
def member (m : Mode) : List Char → Option (Member × List Char)
  | [] => none
  | '\\' :: rest => do
    match ← escape m rest with
    | (.char c byte, rest) => some (.char c byte, rest)
    | (.set s, rest) => some (.set s, rest)
    | (.look _, _) => none
  | c :: rest => some (.char c false, rest)

/-- Reads a character, a range or a set. A hyphen before a bracket or another hyphen is no range. -/
def memberRange (m : Mode) (s : List Char) : Option (CodeSet × List Char) := do
  let (first, rest) ← member m s
  let after := skip m rest
  let ranged := match after with
    | '-' :: more =>
      match skip m more with
      | ']' :: _ | '-' :: _ => false
      | _ => true
    | _ => false
  if after.isEmpty then none
  else if ranged then
    match first, ← member m (skip m (after.drop 1)) with
    | .char a aByte, (.char b bByte, rest) =>
      let refused (c : Char) (byte : Bool) := !m.unicode && byte && 0x7F < c.toNat
      if a ≤ b && !refused a aByte && !refused b bByte then
        some (caseClosed m (.range a.toNat b.toNat), rest)
      else none
    | _, _ => none
  else match first with
    | .char c byte => (charSet m c byte).map (·, after)
    | .set set => some (set, after)

/-- Reads a class of ASCII characters such as `[:alpha:]`, after its bracket. -/
def asciiClass (m : Mode) (s : List Char) : Option (CodeSet × List Char) := do
  let s ← match s with
    | ':' :: rest => some rest
    | _ => none
  let (negated, s) := match s with
    | '^' :: rest => (true, rest)
    | _ => (false, s)
  let name := s.takeWhile (· != ':')
  let rest ← match s.drop name.length with
    | ':' :: ']' :: rest => some rest
    | _ => none
  let set ← asciiClasses.lookup (String.ofList name)
  let set := caseClosed m set
  some (if negated then set.complement else set, rest)

/-- Takes the hyphens at the start of a class, which stand for themselves. -/
def leadingHyphens (m : Mode) : Nat → List Char → Nat × List Char
  | 0, s => (0, s)
  | fuel + 1, s =>
    match s with
    | '-' :: rest =>
      let (n, rest) := leadingHyphens m fuel (skip m rest)
      (n + 1, rest)
    | _ => (0, s)

/-- Reads the start of a class, after its bracket: a caret, then hyphens or a closing bracket that
stand for themselves. -/
def classStart (m : Mode) (s : List Char) : Bool × SetDraft × List Char :=
  let s := skip m s
  let (negated, s) := match s with
    | '^' :: rest => (true, skip m rest)
    | _ => (false, s)
  let (hyphens, s) := leadingHyphens m s.length s
  let draft := { SetDraft.start with
    members := if hyphens = 0 then .empty else .singleton '-'.toNat, count := hyphens }
  match hyphens, s with
  | 0, ']' :: rest => (negated, draft.add (.singleton ']'.toNat) 0, skip m rest)
  | _, _ => (negated, draft, s)

/-- Reads the members of a class up to its closing bracket; gives the set and how deeply the class
is nested. -/
def classRest (m : Mode) : Nat → Bool → SetDraft → List Char → Option (CodeSet × Nat × List Char)
  | 0, _, _, _ => none
  | fuel + 1, negated, draft, s =>
    match skip m s with
    | [] => none
    | ']' :: rest => do
      let (set, depth) := draft.close m
      let set ← negateIf m negated (caseClosed m set)
      some (set, depth + 1, rest)
    | '[' :: rest =>
      match asciiClass m rest with
      | some (set, rest) => classRest m fuel negated (draft.add set 0) rest
      | none =>
        let (innerNegated, innerDraft, rest) := classStart m rest
        match classRest m fuel innerNegated innerDraft rest with
        | none => none
        | some (set, depth, rest) => classRest m fuel negated (draft.add set depth) rest
    | '&' :: '&' :: rest => classRest m fuel negated (draft.operate m .intersection) rest
    | '-' :: '-' :: rest => classRest m fuel negated (draft.operate m .difference) rest
    | '~' :: '~' :: rest => classRest m fuel negated (draft.operate m .symmetricDifference) rest
    | other =>
      match memberRange m other with
      | none => none
      | some (set, rest) => classRest m fuel negated (draft.add set 0) rest

/-- Reads a class, after its opening bracket. -/
def readClass (m : Mode) (s : List Char) : Option (CodeSet × Nat × List Char) :=
  let (negated, draft, rest) := classStart m s
  classRest m (s.length + 1) negated draft rest

/-! ## Groups -/

/-- What a group that has just been opened is. -/
inductive Opening where
  /-- Flags for the rest of the surrounding group. -/
  | flags (mode : Mode)
  /-- A group with the flags inside it, and its name if it has one. -/
  | group (mode : Mode) (name : Option (List Char))

/-- Reads flags up to the colon or parenthesis after them. `seen` holds those read before, `on`
says whether they are being set, and `pending` whether a hyphen waits for a flag. -/
def readFlags : Mode → List Char → Bool → Bool → List Char → Option (Mode × Bool × Char × List Char)
  | _, _, _, _, [] => none
  | m, seen, on, pending, c :: rest =>
    if c = ':' || c = ')' then
      if pending then none else some (m, seen.isEmpty, c, rest)
    else if seen.contains c then none
    else if c = '-' then readFlags m (c :: seen) false true rest
    else match m.set c on with
      | none => none
      | some m => readFlags m (c :: seen) on false rest

def isNameStart (c : Char) : Bool := c = '_' || Unicode.alphabetic.contains c.toNat

def numerals : CodeSet := Unicode.ofCategories ["Nd", "Nl", "No"]

def isNamePart (c : Char) : Bool :=
  isNameStart c || numerals.contains c.toNat || c = '.' || c = '[' || c = ']'

/-- Reads the name of a group up to the closing angle. -/
def groupName (s : List Char) : Option (List Char × List Char) :=
  let name := s.takeWhile (· != '>')
  match s.drop name.length, name with
  | '>' :: rest, first :: more =>
    if isNameStart first && more.all isNamePart then some (name, rest) else none
  | _, _ => none

/-- Reads the start of a group, after its parenthesis. -/
def opening (m : Mode) (s : List Char) : Option (Opening × List Char) :=
  match skip m s with
  | '?' :: 'P' :: '<' :: rest => (groupName rest).map fun (n, rest) => (.group m (some n), rest)
  | '?' :: '<' :: rest =>
    match rest with
    | '=' :: _ | '!' :: _ => none
    | _ => (groupName rest).map fun (n, rest) => (.group m (some n), rest)
  | '?' :: rest =>
    match readFlags m [] true false rest with
    | none => none
    | some (inner, isEmpty, last, rest) =>
      if last = ')' then if isEmpty then none else some (.flags inner, rest)
      else some (.group inner none, rest)
  | rest => some (.group m none, rest)

/-! ## Repetitions -/

/-- Reads a decimal below `2 ^ 32` with blanks around it. -/
def decimal (m : Mode) (s : List Char) : Option Nat × List Char :=
  let (digits, rest) := digitsOf s.length [] (Text.trimStart s)
  let rest := skip m (Text.trimStart rest)
  let n := Text.digitsValue digits
  (if digits.isEmpty || 0x100000000 ≤ n then none else some n, rest)
where
  digitsOf : Nat → List Char → List Char → List Char × List Char
    | 0, digits, s => (digits, s)
    | fuel + 1, digits, s =>
      match s with
      | c :: rest => if c.isDigit then digitsOf fuel (digits ++ [c]) (skip m rest) else (digits, s)
      | [] => (digits, [])

/-- Reads the bounds of a counted repetition, after its brace. -/
def bounds (m : Mode) (s : List Char) : Option (Nat × Option Nat × List Char) := do
  let (least, rest) := decimal m (skip m s)
  let least ← least
  let (most, rest) ← match rest with
    | ',' :: more =>
      match skip m more with
      | '\x7d' :: _ => some (none, skip m more)
      | more => do
        let (most, rest) := decimal m more
        some (some (← most), rest)
    | _ => some (some least, rest)
  match rest with
  | '\x7d' :: rest =>
    if most.any (· < least) then none else some (least, most, rest)
  | _ => none

/-- Drops the question mark that makes a repetition lazy. -/
def dropLazy : List Char → List Char
  | '?' :: rest => rest
  | s => s

/-! ## Patterns -/

/-- A part of a sequence: what it matches, how deeply it is nested, and whether it can be
repeated. -/
structure Piece where
  pattern : Pattern
  depth : Nat
  repeatable : Bool

def Piece.ofSet (s : CodeSet) (depth : Nat) : Piece := ⟨.one s, depth, true⟩

/-- What is read of a group: the alternatives before the current one, the current one, and the names
of groups. -/
structure Draft where
  alternatives : List (Pattern × Nat)
  pieces : List Piece
  names : List (List Char)

namespace Draft

/-- The current alternative. -/
def sequence (d : Draft) : Pattern × Nat :=
  match d.pieces with
  | [] => (.empty, 0)
  | [p] => (p.pattern, p.depth)
  | p :: rest =>
    (rest.foldl (fun acc q => .sequence acc q.pattern) p.pattern,
      (d.pieces.map (·.depth)).foldl max 0 + 1)

def add (d : Draft) (p : Piece) : Draft := { d with pieces := d.pieces ++ [p] }

/-- Replaces the last piece by its repetition. -/
def repeatLast (d : Draft) (least : Nat) (most : Option Nat) : Option Draft :=
  match d.pieces.getLast? with
  | none => none
  | some p =>
    if p.repeatable then
      some { d with
        pieces := d.pieces.dropLast ++ [⟨.repetition p.pattern least most, p.depth + 1, true⟩] }
    else none

def nextAlternative (d : Draft) : Draft :=
  { d with alternatives := d.alternatives ++ [d.sequence], pieces := [] }

/-- The pattern of the whole group. -/
def close (d : Draft) : Pattern × Nat :=
  match d.alternatives with
  | [] => d.sequence
  | first :: rest =>
    let all := rest ++ [d.sequence]
    (all.foldl (fun acc q => .choice acc q.1) first.1,
      (all.map (·.2)).foldl max first.2 + 1)

end Draft

/-- The pattern of an escape. -/
def escapePiece (m : Mode) : Escape → Option Piece
  | .char c byte => (charSet m c byte).map (.ofSet · 0)
  | .set s => some (.ofSet s 0)
  | .look a => some ⟨.look a (wordSet m), 0, true⟩

/-- What a point matches: any character but the end of a line, or any at all. -/
def pointSet (m : Mode) : CodeSet :=
  if m.dotAll then .full
  else if m.crlf then (CodeSet.ofRanges [(10, 11), (13, 14)]).complement
  else (CodeSet.singleton 10).complement

def startAssertion (m : Mode) : Assertion :=
  if !m.multiLine then .textStart else if m.crlf then .lineStartCrlf else .lineStart

def endAssertion (m : Mode) : Assertion :=
  if !m.multiLine then .textEnd else if m.crlf then .lineEndCrlf else .lineEnd

/-- Reads a group up to its closing parenthesis or the end of the text, which it leaves. -/
def readGroup : Nat → Mode → Draft → List Char → Option (Draft × List Char)
  | 0, _, _, _ => none
  | fuel + 1, m, draft, s =>
    match skip m s with
    | [] => some (draft, [])
    | ')' :: rest => some (draft, ')' :: rest)
    | '|' :: rest => readGroup fuel m draft.nextAlternative rest
    | '(' :: rest =>
      match opening m rest with
      | none => none
      | some (.flags m, rest) => readGroup fuel m (draft.add ⟨.empty, 0, false⟩) rest
      | some (.group inner name, rest) =>
        if name.any draft.names.contains then none
        else
          match readGroup fuel inner ⟨[], [], name.toList ++ draft.names⟩ rest with
          | some (body, ')' :: rest) =>
            let (p, depth) := body.close
            readGroup fuel m { draft.add ⟨p, depth + 1, true⟩ with names := body.names } rest
          | _ => none
    | '[' :: rest =>
      match readClass m rest with
      | none => none
      | some (set, depth, rest) => readGroup fuel m (draft.add (.ofSet set depth)) rest
    | '?' :: rest => repeatLast fuel m draft 0 (some 1) (dropLazy rest)
    | '*' :: rest => repeatLast fuel m draft 0 none (dropLazy rest)
    | '+' :: rest => repeatLast fuel m draft 1 none (dropLazy rest)
    | '\x7b' :: rest =>
      match bounds m rest with
      | none => none
      | some (least, most, rest) => repeatLast fuel m draft least most (dropLazy (skip m rest))
    | '\\' :: rest =>
      match escape m rest with
      | none => none
      | some (e, rest) =>
        match escapePiece m e with
        | none => none
        | some p => readGroup fuel m (draft.add p) rest
    | '.' :: rest =>
      match negateIf m false (pointSet m) with
      | none => none
      | some set => readGroup fuel m (draft.add (.ofSet set 0)) rest
    | '^' :: rest =>
      readGroup fuel m (draft.add ⟨.look (startAssertion m) (wordSet m), 0, true⟩) rest
    | '$' :: rest => readGroup fuel m (draft.add ⟨.look (endAssertion m) (wordSet m), 0, true⟩) rest
    | c :: rest =>
      match charSet m c false with
      | none => none
      | some set => readGroup fuel m (draft.add (.ofSet set 0)) rest
where
  /-- Repeats the last piece and goes on. -/
  repeatLast (fuel : Nat) (m : Mode) (draft : Draft) (least : Nat) (most : Option Nat)
      (s : List Char) : Option (Draft × List Char) :=
    match draft.repeatLast least most with
    | none => none
    | some draft => readGroup fuel m draft s

/-- How deeply the parts of a pattern may be nested. -/
def depthLimit : Nat := 250

/-- The pattern that a text denotes, if it denotes one. -/
def compile? (text : String) : Option Pattern :=
  let s := text.toList
  match readGroup (s.length + 1) .initial ⟨[], [], []⟩ s with
  | some (draft, []) =>
    let (p, depth) := draft.close
    if depth ≤ depthLimit && p.size ≤ sizeLimit then some p else none
  | _ => none

end Xacml.Pattern
