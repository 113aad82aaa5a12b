/-
The flags under which a part of a pattern is read, the named classes of characters, and escapes
outside and inside classes.
-/
import Xacml.Pattern.Basic
import Xacml.Text.Blank
import Xacml.Text.Bytes

namespace Xacml.Pattern

open Unicode (CodeSet)

/-! ## Flags -/

/-- Flags can be set and cleared for the rest of a group. -/
structure Mode where
  ignoreCase : Bool
  multiLine : Bool
  dotAll : Bool
  crlf : Bool
  unicode : Bool
  ignoreBlanks : Bool
deriving DecidableEq, Repr

/-- The flags at the start of a pattern. -/
def Mode.initial : Mode := ⟨false, false, false, false, true, false⟩

/-- Sets or clears the flag of that letter. -/
def Mode.set (m : Mode) (letter : Char) (on : Bool) : Option Mode :=
  match letter with
  | 'i' => some { m with ignoreCase := on }
  | 'm' => some { m with multiLine := on }
  | 's' => some { m with dotAll := on }
  | 'R' => some { m with crlf := on }
  | 'u' => some { m with unicode := on }
  | 'x' => some { m with ignoreBlanks := on }
  | 'U' => some m
  | _ => none

/-! ## Blanks and comments -/

/-- What follows a comment, which ends with its line. -/
def afterComment (s : List Char) : List Char := (s.dropWhile (· != '\n')).drop 1

/-- Skips blanks and comments, if they are to be ignored; `fuel` bounds the number of comments. -/
def skipFrom (m : Mode) : Nat → List Char → List Char
  | 0, s => s
  | fuel + 1, s =>
    if m.ignoreBlanks then
      match Text.trimStart s with
      | '#' :: rest => skipFrom m fuel (afterComment rest)
      | rest => rest
    else s

def skip (m : Mode) (s : List Char) : List Char := skipFrom m (s.length + 1) s

/-! ## Sets -/

/-- The characters of one code point under the flags. -/
def caseClosed (m : Mode) (s : CodeSet) : CodeSet :=
  if !m.ignoreCase then s
  else if m.unicode then Unicode.closeUnderCase s
  else
    let upper := s.inter (.range 65 90)
    let lower := s.inter (.range 97 122)
    s.union ((⟨upper.ranges.map fun r => (r.1 + 32, r.2 + 32)⟩ : CodeSet).union
      ⟨lower.ranges.map fun r => (r.1 - 32, r.2 - 32)⟩)

def ascii : CodeSet := .range 0 0x7F

/-- The complement, if asked for; without Unicode only ASCII characters can be matched, so that no
part of a longer character is. -/
def negateIf (m : Mode) (negated : Bool) (s : CodeSet) : Option CodeSet :=
  let set := if negated then s.complement else s
  if m.unicode || (set.diff ascii).ranges.isEmpty then some set else none

def wordAscii : CodeSet := .ofRanges [(48, 58), (65, 91), (95, 96), (97, 123)]

/-- Letters, marks, decimal digits, connectors and joiners. -/
def wordUnicode : CodeSet :=
  (Unicode.alphabetic.union (Unicode.ofCategories ["Mn", "Mc", "Me", "Nd", "Pc"])).union
    Unicode.joinControl

def wordSet (m : Mode) : CodeSet := if m.unicode then wordUnicode else wordAscii

def decimalDigits : CodeSet := Unicode.ofCategories ["Nd"]

/-- The set of a one-letter class, in lower case. -/
def letterClass (m : Mode) : Char → CodeSet
  | 'd' => if m.unicode then decimalDigits else .range 48 57
  | 's' => if m.unicode then Unicode.whiteSpace else .ofRanges [(9, 14), (32, 33)]
  | _ => wordSet m

/-- The bracketed classes of ASCII characters. -/
def asciiClasses : List (String × CodeSet) := [
  ("alnum", .ofRanges [(48, 58), (65, 91), (97, 123)]),
  ("alpha", .ofRanges [(65, 91), (97, 123)]),
  ("ascii", ascii),
  ("blank", .ofRanges [(9, 10), (32, 33)]),
  ("cntrl", .ofRanges [(0, 32), (127, 128)]),
  ("digit", .range 48 57),
  ("graph", .range 33 126),
  ("lower", .range 97 122),
  ("print", .range 32 126),
  ("punct", .ofRanges [(33, 48), (58, 65), (91, 97), (123, 127)]),
  ("space", .ofRanges [(9, 14), (32, 33)]),
  ("upper", .range 65 90),
  ("word", wordAscii),
  ("xdigit", .ofRanges [(48, 58), (65, 71), (97, 103)])]

/-- A name in lower case without spaces, underscores, hyphens and a leading `is`. -/
def propertyName (s : List Char) : String :=
  let body := match s with
    | i :: t :: rest => if i.toLower = 'i' && t.toLower = 's' then rest else s
    | _ => s
  let name := (body.filter fun c => c != ' ' && c != '_' && c != '-' && c.toNat < 0x80).map
    Char.toLower
  String.ofList (if body.length < s.length && name == ['c'] then ['i', 's', 'c'] else name)

/-- The set that a property, category or script of that name denotes. The names `cf`, `sc` and `lc`
are those of categories. -/
def namedSet (name : String) : Option CodeSet :=
  let property := if name = "cf" || name = "sc" || name = "lc" then none else Unicode.property? name
  property <|> Unicode.category? name <|> Unicode.script? name

/-- The set of a property with a given value. -/
def valuedSet (property value : String) : Option CodeSet :=
  if property = "gc" || property = "generalcategory" then Unicode.category? value
  else if property = "sc" || property = "script" then Unicode.script? value
  else if property = "scx" || property = "scriptextensions" then Unicode.scriptExtension? value
  else none

/-- Splits a text at the first occurrence of a separator. -/
def cutAt (separator : List Char) : List Char → Option (List Char × List Char)
  | [] => none
  | c :: rest =>
    if (c :: rest).take separator.length == separator then
      some ([], (c :: rest).drop separator.length)
    else (cutAt separator rest).map fun (front, back) => (c :: front, back)

/-- The set of a property as written between braces, and whether it is to be complemented. -/
def propertySet (text : List Char) : Option (CodeSet × Bool) :=
  match cutAt ['!', '='] text with
  | some (p, v) => (valuedSet (propertyName p) (propertyName v)).map (·, true)
  | none =>
    match (cutAt [':'] text <|> cutAt ['='] text) with
    | some (p, v) => (valuedSet (propertyName p) (propertyName v)).map (·, false)
    | none => (namedSet (propertyName text)).map (·, false)

/-! ## Escapes -/

/-- What an escape stands for. -/
inductive Escape where
  | char (c : Char) (byte : Bool)
  | set (s : CodeSet)
  | look (a : Assertion)

def metaCharacters : List Char :=
  ['\\', '.', '+', '*', '?', '(', ')', '|', '[', ']', '\x7b', '\x7d', '^', '$', '#', '&', '-', '~']

/-- Whether a backslash in front of the character leaves it as it is. -/
def isEscapable (c : Char) : Bool :=
  metaCharacters.contains c || (c.toNat < 0x80 && !c.isAlphanum && c != '<' && c != '>')

def hexValue? (c : Char) : Option Nat :=
  if c.isDigit then some (c.toNat - 48)
  else if 'a' ≤ c && c ≤ 'f' then some (c.toNat - 87)
  else if 'A' ≤ c && c ≤ 'F' then some (c.toNat - 55)
  else none

/-- The character of a row of hexadecimal digits. -/
def hexChar? (digits : List Char) : Option Char := do
  let values ← digits.mapM hexValue?
  let n := values.foldl (fun n d => n * 16 + d) 0
  if n.isValidChar then some (Char.ofNat n) else none

/-- Takes the hexadecimal digits of an escape, blanks between them skipped: those up to a closing
brace, or exactly `count`. -/
def hexDigits (m : Mode) (count : Nat) (s : List Char) : Option (List Char × List Char) :=
  match skip m s with
  | '\x7b' :: rest => braced (rest.length + 1) [] (skip m rest)
  | rest => counted count [] rest
where
  braced : Nat → List Char → List Char → Option (List Char × List Char)
    | 0, _, _ => none
    | _, _, [] => none
    | fuel + 1, digits, c :: rest =>
      if c = '\x7d' then if digits.isEmpty then none else some (digits, rest)
      else if (hexValue? c).isSome then braced fuel (digits ++ [c]) (skip m rest)
      else none
  counted : Nat → List Char → List Char → Option (List Char × List Char)
    | 0, digits, rest => some (digits, rest)
    | _ + 1, _, [] => none
    | n + 1, digits, c :: rest =>
      if (hexValue? c).isSome then
        counted n (digits ++ [c]) (if n = 0 then rest else skip m rest)
      else none

/-- Takes the name of a property up to the closing brace, blanks skipped. -/
def bracedName (m : Mode) : Nat → List Char → List Char → Option (List Char × List Char)
  | 0, _, _ => none
  | _, _, [] => none
  | fuel + 1, name, c :: rest =>
    if c = '\x7d' then some (name, rest) else bracedName m fuel (name ++ [c]) (skip m rest)

/-- The kinds of word boundaries that can be named in braces. -/
def namedBoundaries : List (String × Assertion) :=
  [("start", .wordStart), ("end", .wordEnd), ("start-half", .wordStartHalf),
    ("end-half", .wordEndHalf)]

/-- Takes the letters and hyphens of the name of a boundary. -/
def boundaryName (m : Mode) : Nat → List Char → List Char → List Char × List Char
  | 0, name, s => (name, s)
  | _, name, [] => (name, [])
  | fuel + 1, name, c :: rest =>
    if c.isAlpha || c = '-' then boundaryName m fuel (name ++ [c]) (skip m rest)
    else (name, c :: rest)

/-- What follows `\b`: a name in braces makes it a special boundary. Braces that do not begin with a
letter or a hyphen are left for a repetition. -/
def boundary (m : Mode) (s : List Char) : Option (Assertion × List Char) :=
  match s with
  | '\x7b' :: rest =>
    match skip m rest with
    | [] => none
    | c :: more =>
      if c.isAlpha || c = '-' then
        match boundaryName m (rest.length + 1) [] (c :: more) with
        | (name, '\x7d' :: after) => (namedBoundaries.lookup (String.ofList name)).map (·, after)
        | _ => none
      else some (.wordBoundary, s)
  | _ => some (.wordBoundary, s)

/-- Reads what follows a backslash. -/
def escape (m : Mode) (s : List Char) : Option (Escape × List Char) :=
  match s with
  | [] => none
  | c :: rest =>
    if c = 'x' || c = 'u' || c = 'U' then do
      let count := if c = 'x' then 2 else if c = 'u' then 4 else 8
      let byte := c = 'x' && (skip m rest).head? != some '\x7b'
      let (digits, rest) ← hexDigits m count rest
      let d ← hexChar? digits
      -- blanks after the digits are skipped with them
      some (.char d byte, skip m rest)
    else if c = 'p' || c = 'P' then
      if !m.unicode then none
      else do
        let (text, rest) ← match skip m rest with
          | [] => none
          | '\x7b' :: more => bracedName m (more.length + 1) [] (skip m more)
          | '\\' :: _ => none
          | d :: more => some ([d], skip m more)
        let (set, complemented) ← propertySet text
        let set ← negateIf m ((c = 'P') != complemented) (caseClosed m set)
        some (.set set, rest)
    else if c = 'd' || c = 's' || c = 'w' || c = 'D' || c = 'S' || c = 'W' then do
      let set ← negateIf m c.isUpper (letterClass m c.toLower)
      some (.set set, rest)
    else if isEscapable c then some (.char c false, rest)
    else match c with
      | 'a' => some (.char '\x07' false, rest)
      | 'f' => some (.char '\x0C' false, rest)
      | 't' => some (.char '\t' false, rest)
      | 'n' => some (.char '\n' false, rest)
      | 'r' => some (.char '\r' false, rest)
      | 'v' => some (.char '\x0B' false, rest)
      | 'A' => some (.look .textStart, rest)
      | 'z' => some (.look .textEnd, rest)
      | 'b' => (boundary m rest).map fun (a, rest) => (.look a, rest)
      | 'B' => some (.look .notWordBoundary, rest)
      | '<' => some (.look .wordStart, rest)
      | '>' => some (.look .wordEnd, rest)
      | _ => none

/-- The set of one character under the flags. Without Unicode a byte beyond ASCII is refused. -/
def charSet (m : Mode) (c : Char) (byte : Bool) : Option CodeSet :=
  if !m.unicode && byte && 0x7F < c.toNat then none
  else some (caseClosed m (.singleton c.toNat))

end Xacml.Pattern
