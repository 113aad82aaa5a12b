/-
Documents from JSON texts. A text holds one value with blanks around it and nothing else.
-/
import Xacml.Document.Basic
import Xacml.Text.Bytes

namespace Xacml.Document.Json

def isBlank (c : Char) : Bool := c == ' ' || c == '\t' || c == '\n' || c == '\r'

def skipBlanks (s : List Char) : List Char := s.dropWhile isBlank

/-! ## Texts -/

def hexDigit? (c : Char) : Option Nat :=
  if '0' ≤ c ∧ c ≤ '9' then some (c.toNat - '0'.toNat)
  else if 'a' ≤ c ∧ c ≤ 'f' then some (c.toNat - 'a'.toNat + 10)
  else if 'A' ≤ c ∧ c ≤ 'F' then some (c.toNat - 'A'.toNat + 10)
  else none

/-- The number of four hexadecimal digits. -/
def readUnit : List Char → Option (Nat × List Char)
  | a :: b :: c :: d :: rest => do
    let digits ← [a, b, c, d].mapM hexDigit?
    some (digits.foldl (fun n d => n * 16 + d) 0, rest)
  | _ => none

/-- The character that stands for half of a pair without the other half. -/
def replacement : Char := '\ufffd'

/-- The character of a numbered escape, which may take a second escape to complete. -/
def readNumbered (s : List Char) : Option (Char × List Char) := do
  let (first, rest) ← readUnit s
  if 0xD800 ≤ first ∧ first < 0xDC00 then
    match rest with
    | '\\' :: 'u' :: more =>
      match readUnit more with
      | some (second, rest') =>
        if 0xDC00 ≤ second ∧ second < 0xE000 then
          some (Char.ofNat (0x10000 + (first - 0xD800) * 0x400 + (second - 0xDC00)), rest')
        else some (replacement, rest)
      | none => some (replacement, rest)
    | _ => some (replacement, rest)
  else if 0xDC00 ≤ first ∧ first < 0xE000 then some (replacement, rest)
  else some (Char.ofNat first, rest)

/-- What an escape denotes, after its backslash. -/
def readEscape : List Char → Option (Char × List Char)
  | '"' :: rest => some ('"', rest)
  | '\\' :: rest => some ('\\', rest)
  | '/' :: rest => some ('/', rest)
  | 'b' :: rest => some ('\x08', rest)
  | 'f' :: rest => some ('\x0c', rest)
  | 'n' :: rest => some ('\n', rest)
  | 'r' :: rest => some ('\r', rest)
  | 't' :: rest => some ('\t', rest)
  | 'u' :: rest => readNumbered rest
  | _ => none

/-- Reads a text after its opening quote. -/
def readText : Nat → List Char → Option (List Char × List Char)
  | 0, _ => none
  | fuel + 1, s =>
    match s with
    | [] => none
    | '"' :: rest => some ([], rest)
    | '\\' :: rest => do
      let (c, rest) ← readEscape rest
      let (t, rest) ← readText fuel rest
      some (c :: t, rest)
    | c :: rest =>
      if c.toNat < 0x20 then none
      else do
        let (t, rest) ← readText fuel rest
        some (c :: t, rest)

/-! ## Numbers -/

def splitDigits (s : List Char) : List Char × List Char :=
  (s.takeWhile Char.isDigit, s.dropWhile Char.isDigit)

/-- Reads a fraction, if there is one; tells whether there was. -/
def readFraction : List Char → Option (Bool × List Char)
  | '.' :: rest =>
    match splitDigits rest with
    | ([], _) => none
    | (_, rest) => some (true, rest)
  | s => some (false, s)

/-- Reads an exponent, if there is one; tells whether there was. -/
def readExponent : List Char → Option (Bool × List Char)
  | c :: rest =>
    if c == 'e' || c == 'E' then
      let unsigned := match rest with
        | '+' :: more => more
        | '-' :: more => more
        | _ => rest
      match splitDigits unsigned with
      | ([], _) => none
      | (_, rest) => some (true, rest)
    else some (false, c :: rest)
  | [] => some (false, [])

/-- Reads a number. A negative zero is not a whole number. -/
def readNumber (s : List Char) : Option (Document × List Char) := do
  let (negative, unsigned) := match s with
    | '-' :: rest => (true, rest)
    | _ => (false, s)
  let (digits, rest) := splitDigits unsigned
  if digits.isEmpty || (digits.head? == some '0' && 1 < digits.length) then none
  else
    let (fraction, rest) ← readFraction rest
    let (exponent, rest) ← readExponent rest
    let n : Int := Text.digitsValue digits
    if fraction || exponent || (negative && n == 0) then
      some (.fractional (String.ofList (s.take (s.length - rest.length))), rest)
    else some (.whole (if negative then -n else n), rest)

/-! ## Values -/

/-- Reads a fixed word after its first letter. -/
def readWord (word : String) (d : Document) (s : List Char) : Option (Document × List Char) :=
  if word.toList.isPrefixOf s then some (d, s.drop word.length) else none

mutual

def readValue : Nat → List Char → Option (Document × List Char)
  | 0, _ => none
  | fuel + 1, s =>
    match skipBlanks s with
    | [] => none
    | 'n' :: rest => readWord "ull" .null rest
    | 't' :: rest => readWord "rue" (.boolean true) rest
    | 'f' :: rest => readWord "alse" (.boolean false) rest
    | '"' :: rest => (readText (rest.length + 1) rest).map fun (t, rest) =>
        (.text (String.ofList t), rest)
    | '[' :: rest =>
      match skipBlanks rest with
      | ']' :: rest => some (.list [], rest)
      | rest => (readItems fuel rest).map fun (items, rest) => (.list items, rest)
    | '\x7b' :: rest =>
      match skipBlanks rest with
      | '\x7d' :: rest => some (.record [], rest)
      | rest => (readEntries fuel rest).map fun (entries, rest) => (.record entries, rest)
    | s => readNumber s

/-- Reads at least one item of a list, and the end of the list. -/
def readItems : Nat → List Char → Option (List Document × List Char)
  | 0, _ => none
  | fuel + 1, s => do
    let (d, rest) ← readValue fuel s
    match skipBlanks rest with
    | ',' :: rest => (readItems fuel rest).map fun (ds, rest) => (d :: ds, rest)
    | ']' :: rest => some ([d], rest)
    | _ => none

/-- Reads at least one entry of a record, and the end of the record. -/
def readEntries : Nat → List Char → Option (List (String × Document) × List Char)
  | 0, _ => none
  | fuel + 1, s =>
    match skipBlanks s with
    | '"' :: rest => do
      let (key, rest) ← readText (rest.length + 1) rest
      match skipBlanks rest with
      | ':' :: rest =>
        let (d, rest) ← readValue fuel rest
        let entry := (String.ofList key, d)
        match skipBlanks rest with
        | ',' :: rest => (readEntries fuel rest).map fun (es, rest) => (entry :: es, rest)
        | '\x7d' :: rest => some ([entry], rest)
        | _ => none
      | _ => none
    | _ => none

end

/-- The document of a text. -/
def read? (text : String) : Option Document := do
  let s := text.toList
  let (d, rest) ← readValue (s.length + 1) s
  if (skipBlanks rest).isEmpty then some d else none

end Xacml.Document.Json
