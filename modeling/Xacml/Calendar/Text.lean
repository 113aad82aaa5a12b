/-
Written dates, times and dateTimes. The lenient forms take each field with as few digits as it has,
up to its width, and blanks before a field; the strict form of a dateTime with an offset is that of
RFC 3339. Writing always uses full widths, and a fraction of three, six or nine digits or none.
-/
import Xacml.Calendar.Basic
import Xacml.Text.Blank
import Xacml.Text.Bytes

namespace Xacml.Calendar

/-! ## Fields -/

/-- Why a text is no date or time. -/
inductive Fault where
  | invalid
  | outOfRange
  | tooShort
  | trailing
deriving DecidableEq, Repr

def Fault.message : Fault → String
  | .invalid => "input contains invalid characters"
  | .outOfRange => "input is out of range"
  | .tooShort => "premature end of input"
  | .trailing => "trailing input"

/-- What reading a part of a text gives: the part's value and the rest of the text. -/
abbrev Reader (α : Type) := List Char → Except Fault (α × List Char)

/-- A row of digits, at least one and at most `width`. -/
def number (width : Option Nat) : Reader Nat := fun s =>
  let run := s.takeWhile Char.isDigit
  let digits := match width with
    | some n => run.take n
    | none => run
  match s with
  | [] => .error .tooShort
  | _ =>
    if digits.isEmpty then .error .invalid
    else .ok (Text.digitsValue digits, s.drop digits.length)

/-- A separator. -/
def literal (c : Char) : Reader Unit
  | [] => .error .tooShort
  | d :: rest => if c = d then .ok ((), rest) else .error .invalid

/-- A field of up to two digits with a value from `low` to `high`, blanks before it. -/
def field (low high : Nat) : Reader Nat := fun s => do
  let (n, rest) ← number (some 2) (Text.trimStart s)
  if low ≤ n ∧ n ≤ high then .ok (n, rest) else .error .outOfRange

/-- A year: four digits at most, or a sign and any number of digits. -/
def yearField : Reader Int := fun s => do
  let (n, rest) ← match Text.trimStart s with
    | '-' :: t => (number none t).map fun (n, rest) => (-(n : Int), rest)
    | '+' :: t => (number none t).map fun (n, rest) => ((n : Int), rest)
    | t => (number (some 4) t).map fun (n, rest) => ((n : Int), rest)
  if -0x80000000 ≤ n ∧ n < 0x80000000 then .ok (n, rest) else .error .outOfRange

/-- The nanoseconds of a row of fraction digits; digits after the ninth are dropped. -/
def nanoseconds (digits : List Char) : Nat :=
  let kept := digits.take 9
  Text.digitsValue kept * Nat.pow 10 (9 - kept.length)

/-- An optional fraction of a second. -/
def fraction : Reader Nat
  | '.' :: rest => do
    let (_, _) ← number (some 9) rest
    let digits := rest.takeWhile Char.isDigit
    .ok (nanoseconds digits, rest.drop digits.length)
  | s => .ok (0, s)

/-! ## Dates and times without an offset -/

/-- The fields of a date, not yet known to make one. -/
def dateFields : Reader (Int × Nat × Nat) := fun s => do
  let (year, s) ← yearField s
  let (_, s) ← literal '-' s
  let (month, s) ← field 1 12 s
  let (_, s) ← literal '-' s
  let (day, s) ← field 1 31 s
  .ok ((year, month, day), s)

/-- The fields of a time. Second 60 is the leap second. -/
def timeFields : Reader (Nat × Nat × Nat × Nat) := fun s => do
  let (hour, s) ← field 0 23 s
  let (_, s) ← literal ':' s
  let (minute, s) ← field 0 59 s
  let (_, s) ← literal ':' s
  let (second, s) ← field 0 60 s
  let (nano, s) ← fraction s
  .ok ((hour, minute, second, nano), s)

def dateOf (f : Int × Nat × Nat) : Except Fault Date :=
  match Date.ofFields? f.1 f.2.1 f.2.2 with
  | some d => .ok d
  | none => .error .outOfRange

def timeOf (f : Nat × Nat × Nat × Nat) : Except Fault Time :=
  let (hour, minute, second, nano) := f
  let time := if second = 60 then Time.ofFields? hour minute 59 (nano + 1000000000)
    else Time.ofFields? hour minute second nano
  match time with
  | some t => .ok t
  | none => .error .outOfRange

/-- Reads the whole of a text. -/
def whole {α : Type} (r : Reader α) (s : List Char) : Except Fault α :=
  match r s with
  | .ok (a, []) => .ok a
  | .ok _ => .error .trailing
  | .error e => .error e

/-- A date, `year-month-day`. -/
def readBareDate (s : List Char) : Except Fault Date := whole dateFields s >>= dateOf

/-- A time, `hour:minute:second` with an optional fraction. -/
def readBareTime (s : List Char) : Except Fault Time := whole timeFields s >>= timeOf

/-- Cuts a timezone from the end of a date or time: a `Z`, or the last six bytes if they are a sign,
two bytes, a colon and two bytes and at least eight bytes stand before them. -/
def withoutZone (s : List Char) : List Char :=
  match s.reverse with
  | 'Z' :: rest => rest.reverse
  | _ =>
    let n := Text.byteLength s
    if n < 6 then s
    else match Text.splitAtByte? (n - 6) s with
      | none => s
      | some (front, back) =>
        let bytes := Text.utf8 back
        let signed := bytes[0]? = some '+'.toUInt8 || bytes[0]? = some '-'.toUInt8
        if signed && bytes[3]? = some ':'.toUInt8 && 8 ≤ Text.byteLength front then front else s

/-- A date with an optional timezone, which does not count. -/
def readDate (s : List Char) : Except Fault Date := readBareDate (withoutZone s)

/-- A time with an optional timezone, which does not count. -/
def readTime (s : List Char) : Except Fault Time := readBareTime (withoutZone s)

/-! ## DateTimes -/

/-- Exactly `n` digits. -/
def exactly (n : Nat) : Reader Nat := fun s =>
  let digits := s.take n
  if digits.length = n && digits.all Char.isDigit then .ok (Text.digitsValue digits, s.drop n)
  else .error .invalid

/-- An offset: `Z` in either case, or a sign, hours up to 23, a colon and minutes up to 59. -/
def offsetField : Reader Int
  | [] => .error .tooShort
  | c :: s =>
    if c = 'Z' || c = 'z' then .ok (0, s)
    else do
      let sign : Int ← if c = '+' then .ok 1 else if c = '-' || c = '\u2212' then .ok (-1)
        else .error .invalid
      let (hours, s) ← exactly 2 s
      let (_, s) ← literal ':' s
      let (minutes, s) ← exactly 2 s
      if hours ≤ 23 ∧ minutes ≤ 59 then .ok (sign * (hours * 60 + minutes : Nat), s)
      else .error .outOfRange

/-- The separator of date and time. -/
def dateTimeMark : Reader Unit
  | [] => .error .tooShort
  | c :: s => if c = 'T' || c = 't' || c = ' ' then .ok ((), s) else .error .invalid

/-- The strict form of RFC 3339: full widths and an offset. -/
def readStrict (s : List Char) : Except Fault DateTime := do
  let (year, s) ← exactly 4 s
  let (_, s) ← literal '-' s
  let (month, s) ← exactly 2 s
  let (_, s) ← literal '-' s
  let (day, s) ← exactly 2 s
  let (_, s) ← dateTimeMark s
  let (hour, s) ← exactly 2 s
  let (_, s) ← literal ':' s
  let (minute, s) ← exactly 2 s
  let (_, s) ← literal ':' s
  let (second, s) ← exactly 2 s
  let (nano, s) ← fraction s
  let offset ← whole offsetField s
  let date ← dateOf (year, month, day)
  let time ← timeOf (hour, minute, second, nano)
  .ok ⟨date, time, offset⟩

/-- The lenient form without an offset, which means UTC. -/
def readZoneless (s : List Char) : Except Fault DateTime := do
  let ((date, time) : (Int × Nat × Nat) × (Nat × Nat × Nat × Nat)) ← whole (fun s => do
    let (date, s) ← dateFields s
    let (_, s) ← literal 'T' s
    let (time, s) ← timeFields s
    .ok ((date, time), s)) s
  let date ← dateOf date
  let time ← timeOf time
  .ok ⟨date, time, 0⟩

/-- A dateTime: the strict form if the text has it, else the lenient one. -/
def readDateTime (s : List Char) : Except Fault DateTime :=
  match readStrict s with
  | .ok t => .ok t
  | .error _ => readZoneless s

/-! ## Writing -/

/-- Years of four digits stand alone, the others take a sign. -/
def yearText (year : Int) : List Char :=
  if 0 ≤ year ∧ year ≤ 9999 then Text.padded 4 year.toNat
  else (if year < 0 then '-' else '+') :: Text.padded 4 year.natAbs

def Date.chars (d : Date) : List Char :=
  yearText d.year ++ '-' :: Text.padded 2 d.month ++ '-' :: Text.padded 2 d.day

def fractionText (nano : Nat) : List Char :=
  if nano = 0 then []
  else if nano % 1000000 = 0 then '.' :: Text.padded 3 (nano / 1000000)
  else if nano % 1000 = 0 then '.' :: Text.padded 6 (nano / 1000)
  else '.' :: Text.padded 9 nano

def Time.chars (t : Time) : List Char :=
  Text.padded 2 t.hour ++ ':' :: Text.padded 2 t.minute ++ ':' ::
    Text.padded 2 (t.second + t.nano / 1000000000) ++ fractionText (t.nano % 1000000000)

def offsetText (offset : Int) : List Char :=
  if offset = 0 then ['Z']
  else
    let minutes := offset.natAbs
    (if offset < 0 then '-' else '+') :: Text.padded 2 (minutes / 60) ++
      ':' :: Text.padded 2 (minutes % 60)

def DateTime.chars (t : DateTime) : List Char :=
  t.date.chars ++ 'T' :: t.time.chars ++ offsetText t.offset

def Date.text (d : Date) : String := String.ofList d.chars

def Time.text (t : Time) : String := String.ofList t.chars

def DateTime.text (t : DateTime) : String := String.ofList t.chars

end Xacml.Calendar
