/-
Places in a YAML text. A place knows its line and column, because indentation makes the structure,
and the anchors that have come up before it.
-/
import Xacml.Document.Yaml.Node

namespace Xacml.Document.Yaml

structure Spot where
  rest : List Char
  line : Nat
  column : Nat
  anchors : List (String × Node)

/-! ## Characters -/

def isSpace (c : Char) : Bool := c == ' ' || c == '\t'

def isBlank (c : Char) : Bool := isSpace c || c == '\n'

/-- Whether a text is at an end or at a blank. -/
def endsWord : List Char → Bool
  | [] => true
  | c :: _ => isBlank c

/-- The characters that may stand in a text. -/
def isAllowed (c : Char) : Bool :=
  c == '\t' || c == '\n' || c == '\r' || (' ' ≤ c && c ≤ '~') || c == '\u0085' ||
    ('\u00a0' ≤ c && c != '\ufeff' && c != '\ufffe' && c != '\uffff')

/-- The text with every kind of line end as a line feed. -/
def normalized : List Char → List Char
  | [] => []
  | '\r' :: '\n' :: rest => '\n' :: normalized rest
  | c :: rest =>
    (if c = '\r' ∨ c = '\u0085' ∨ c = '\u2028' ∨ c = '\u2029' then '\n' else c) :: normalized rest

/-- Whether the line that starts here divides documents. -/
def isMarker : List Char → Bool
  | '-' :: '-' :: '-' :: rest => endsWord rest
  | '.' :: '.' :: '.' :: rest => endsWord rest
  | _ => false

namespace Spot

/-- The place after the next character, which is no line end. -/
def next (s : Spot) : Spot := { s with rest := s.rest.tail, column := s.column + 1 }

/-- Whether the document ends here. -/
def isEnd (s : Spot) : Bool := s.rest.isEmpty || (s.column == 0 && isMarker s.rest)

/-- Whether an indicator stands here, before a blank. -/
def isAt (s : Spot) (indicator : Char) : Bool :=
  match s.rest with
  | c :: rest => c == indicator && endsWord rest
  | [] => false

def anchor (s : Spot) (name : Option String) (n : Node) : Spot :=
  match name with
  | some name => { s with anchors := (name, n) :: s.anchors }
  | none => s

end Spot

/-! ## Skipping -/

/-- Skips blanks and comments. Tells too whether a key may start after them: a line end in block
context allows it. Where a key may start, a tab is not skipped, for it is no indentation. -/
def skipFrom (flow : Bool) (anchors : List (String × Node)) :
    Bool → Bool → Nat → Nat → List Char → Spot × Bool
  | _, key, line, column, [] => (⟨[], line, column, anchors⟩, key)
  | comment, key, line, column, c :: rest =>
    if c = '\n' then skipFrom flow anchors false (key || !flow) (line + 1) 0 rest
    else if comment || c == ' ' || (c == '\t' && (flow || !key)) then
      skipFrom flow anchors comment key line (column + 1) rest
    else if c = '#' then skipFrom flow anchors true key line (column + 1) rest
    else (⟨c :: rest, line, column, anchors⟩, key)

/-- Skips blanks and comments in block context. -/
def Spot.skip (s : Spot) (key : Bool) : Spot × Bool :=
  skipFrom false s.anchors false key s.line s.column s.rest

/-- Skips blanks and comments between brackets. -/
def Spot.skipFlow (s : Spot) : Spot :=
  (skipFrom true s.anchors false false s.line s.column s.rest).1

/-- Skips the blanks of a line. -/
def Spot.skipSpaces (s : Spot) : Spot :=
  let spaces := s.rest.takeWhile isSpace
  { s with rest := s.rest.drop spaces.length, column := s.column + spaces.length }

end Xacml.Document.Yaml
