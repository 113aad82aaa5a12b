/-
The UTF-8 form of a text, for the few rules that count bytes; rows of decimal digits and the numbers
they denote; and the two-digit hexadecimal form of a row of bytes.
-/
namespace Xacml.Text

def utf8 (s : List Char) : List UInt8 := s.flatMap String.utf8EncodeChar

theorem utf8_cons (c : Char) (s : List Char) : utf8 (c :: s) = String.utf8EncodeChar c ++ utf8 s :=
  List.flatMap_cons

theorem utf8_append (s t : List Char) : utf8 (s ++ t) = utf8 s ++ utf8 t := List.flatMap_append

def byteLength (s : List Char) : Nat := s.foldl (fun n c => n + c.utf8Size) 0

/-- Splits a text after its first `n` bytes; there is no split inside a character. -/
def splitAtByte? : Nat → List Char → Option (List Char × List Char)
  | 0, s => some ([], s)
  | _ + 1, [] => none
  | n + 1, c :: s =>
    if c.utf8Size ≤ n + 1 then
      (splitAtByte? (n + 1 - c.utf8Size) s).map fun (front, back) => (c :: front, back)
    else none
termination_by _ s => s.length

/-! ## Decimal digits -/

/-- The number a row of ASCII digits denotes; the empty row denotes zero. -/
def digitsValue (digits : List Char) : Nat :=
  digits.foldl (fun n c => n * 10 + (c.toNat - '0'.toNat)) 0

/-- The decimal digits of a number, with zeros in front up to `width`. -/
def padded (width n : Nat) : List Char :=
  let digits := Nat.toDigits 10 n
  List.replicate (width - digits.length) '0' ++ digits

/-! ## Hexadecimal digits -/

/-- Why a text is no row of bytes. -/
inductive HexFault where
  | oddLength
  | invalidDigit (byte : UInt8) (position : Nat)
deriving DecidableEq, Repr

/-- A byte that is no digit is named by the character of the same code. -/
def HexFault.message : HexFault → String
  | .oddLength => "Odd number of digits"
  | .invalidDigit byte position =>
    s!"Invalid character '{Char.ofNat byte.toNat}' at position {position}"

def hexDigit? (b : UInt8) : Option UInt8 :=
  if '0'.toUInt8 ≤ b && b ≤ '9'.toUInt8 then some (b - '0'.toUInt8)
  else if 'a'.toUInt8 ≤ b && b ≤ 'f'.toUInt8 then some (b - 'a'.toUInt8 + 10)
  else if 'A'.toUInt8 ≤ b && b ≤ 'F'.toUInt8 then some (b - 'A'.toUInt8 + 10)
  else none

/-- Reads pairs of digits; `position` is that of the next byte in the whole text. -/
def readHexPairs (position : Nat) : List UInt8 → Except HexFault (List UInt8)
  | [] => .ok []
  | [_] => .error .oddLength
  | high :: low :: rest =>
    match hexDigit? high, hexDigit? low with
    | none, _ => .error (.invalidDigit high position)
    | some _, none => .error (.invalidDigit low (position + 1))
    | some h, some l => (readHexPairs (position + 2) rest).map ((h * 16 + l) :: ·)

/-- Reads an even number of hexadecimal digits in either case. -/
def readHex (s : List Char) : Except HexFault (List UInt8) :=
  let bytes := utf8 s
  if bytes.length % 2 = 1 then .error .oddLength else readHexPairs 0 bytes

/-- The upper-case digit of a number below sixteen. -/
def hexDigit (n : UInt8) : Char :=
  Char.ofNat (if n < 10 then '0'.toNat + n.toNat else 'A'.toNat + (n.toNat - 10))

/-- The upper-case hexadecimal form of a row of bytes. -/
def hexText (bytes : List UInt8) : List Char :=
  bytes.flatMap fun b => [hexDigit (b / 16), hexDigit (b % 16)]

end Xacml.Text
