/-
Written integers and rows of bytes. Reading a decimal narrows after every digit; digits only take a
number away from zero, so that all the numbers on the way are in range if the last one is. Main
statements: an integer and a row of bytes are read back from their texts.
-/
import Xacml.Proofs.Lexical.Text

namespace Xacml

/-! ## Integers -/

namespace Integer

theorem le_ofDigitChars (digits : List Char) (n : Nat) : n ≤ Nat.ofDigitChars 10 digits n := by
  induction digits generalizing n with
  | nil => exact Nat.le_refl n
  | cons c rest ih =>
    rw [Nat.ofDigitChars_cons]
    have := ih (10 * n + (c.toNat - '0'.toNat))
    omega

/-- The number of the given magnitude, below zero or above. -/
def signed (negative : Bool) (n : Nat) : Int := if negative then -n else n

/-- What is nearer to zero is in range. -/
theorem inRange_signed_of_le {negative : Bool} {m n : Nat} (hle : m ≤ n)
    (h : InRange (signed negative n)) : InRange (signed negative m) := by
  unfold InRange at *
  unfold signed at *
  split at h <;> simp_all <;> omega

/-- One more digit takes a number further from zero. -/
theorem signed_step (negative : Bool) (n d : Nat) :
    (if negative = true then signed negative n * 10 - d else signed negative n * 10 + d) =
      signed negative (10 * n + d) := by
  unfold signed
  cases negative <;> simp <;> omega

/-- Digits are read to the end if the number that they denote is in range. -/
theorem readDigits_eq_ok (negative : Bool) (n : Nat) {digits : List Char}
    (hdigits : ∀ c ∈ digits, c.isDigit = true)
    (h : InRange (signed negative (Nat.ofDigitChars 10 digits n))) :
    readDigits negative (signed negative n) digits =
      .ok (signed negative (Nat.ofDigitChars 10 digits n)) := by
  induction digits generalizing n with
  | nil => rfl
  | cons c rest ih =>
    obtain ⟨hc, hrest⟩ := List.forall_mem_cons.1 hdigits
    rw [Nat.ofDigitChars_cons] at h ⊢
    have hrange := inRange_signed_of_le (le_ofDigitChars rest _) h
    rw [readDigits, digit?, if_pos hc]
    dsimp only
    rw [signed_step, if_pos hrange]
    exact ih _ hrest h

/-- A number without a sign. -/
theorem readSigned_digits {digits : List Char} (hne : digits ≠ [])
    (hdigits : ∀ c ∈ digits, c.isDigit = true) : readSigned digits = readDigits false 0 digits := by
  cases digits with
  | nil => exact absurd rfl hne
  | cons c rest =>
    have hc := hdigits c List.mem_cons_self
    have hplus : c ≠ '+' := by rintro rfl; cases hc
    have hminus : c ≠ '-' := by rintro rfl; cases hc
    unfold readSigned
    split <;> simp_all

theorem readSigned_minus {digits : List Char} (hne : digits ≠ []) :
    readSigned ('-' :: digits) = readDigits true 0 digits := by
  cases digits with
  | nil => exact absurd rfl hne
  | cons c rest => rfl

theorem readSigned_plus {digits : List Char} (hne : digits ≠ []) :
    readSigned ('+' :: digits) = readDigits false 0 digits := by
  cases digits with
  | nil => exact absurd rfl hne
  | cons c rest => rfl

/-- The digits of a number that is in range, with a minus sign in front if it is below zero. -/
theorem text_chars (a : Int64) : (text a).toList =
    if 0 ≤ a.toInt then Nat.toDigits 10 a.toInt.toNat
    else '-' :: Nat.toDigits 10 (-a.toInt).toNat := by
  have h : text a = a.toInt.repr := rfl
  rw [h, Int.repr_eq_if]
  split
  · rw [Nat.toList_repr]
  · rw [String.toList_append, Nat.toList_repr]
    rfl

theorem isBlank_text {a : Int64} {c : Char} (h : c ∈ (text a).toList) : Text.isBlank c = false := by
  have hdigit : ∀ n, c ∈ Nat.toDigits 10 n → Text.isBlank c = false := fun n hc =>
    Text.isBlank_of_isDigit (Nat.isDigit_of_mem_toDigits (by decide) (by decide) hc)
  rw [text_chars] at h
  split at h
  · exact hdigit _ h
  · rcases List.mem_cons.1 h with rfl | h
    · decide
    · exact hdigit _ h

/-- An integer is read back from its text. -/
theorem read_text (a : Int64) : read (text a).toList = .ok a := by
  have hrange := inRange_toInt a
  have hdigits : ∀ n, ∀ c ∈ Nat.toDigits 10 n, c.isDigit = true := fun n c hc =>
    Nat.isDigit_of_mem_toDigits (by decide) (by decide) hc
  suffices h : readSigned (text a).toList = .ok a.toInt ∧ (text a).toList.head? ≠ some '+' by
    obtain ⟨hsigned, hplus⟩ := h
    unfold read
    split
    · rename_i rest hrest
      rw [hrest] at hplus
      exact absurd rfl hplus
    · show (readSigned (text a).toList).map Int64.ofInt = _
      rw [hsigned]
      exact congrArg Except.ok (Int64.ofInt_toInt a)
  rw [text_chars]
  split
  · rename_i hpos
    have hn : signed false a.toInt.toNat = a.toInt := Int.toNat_of_nonneg hpos
    constructor
    · rw [readSigned_digits Nat.toDigits_ne_nil (hdigits _)]
      have hread := readDigits_eq_ok false 0 (hdigits a.toInt.toNat)
      rw [Nat.ofDigitChars_ten_toDigits, hn] at hread
      exact hread hrange
    · intro hhead
      exact absurd (hdigits _ _ (List.mem_of_mem_head? hhead)) (by decide)
  · rename_i hneg
    have hn : signed true (-a.toInt).toNat = a.toInt := by
      unfold signed
      rw [if_pos rfl]
      omega
    constructor
    · rw [readSigned_minus Nat.toDigits_ne_nil]
      have hread := readDigits_eq_ok true 0 (hdigits (-a.toInt).toNat)
      rw [Nat.ofDigitChars_ten_toDigits, hn] at hread
      exact hread hrange
    · intro hhead
      cases hhead

end Integer

/-! ## Bytes -/

namespace Text

/-- A digit is read back from its character, which is one of ASCII. -/
theorem hexDigit_spec {n : UInt8} (h : n < 16) :
    (hexDigit n).toNat < 128 ∧ isBlank (hexDigit n) = false ∧
      hexDigit? (hexDigit n).val.toUInt8 = some n := by
  have hall : ∀ k < 16, (hexDigit (.ofNat k)).toNat < 128 ∧ isBlank (hexDigit (.ofNat k)) = false ∧
      hexDigit? (hexDigit (.ofNat k)).val.toUInt8 = some (.ofNat k) := by decide
  have hn := hall n.toNat (UInt8.lt_iff_toNat_lt.1 h)
  rwa [UInt8.ofNat_toNat] at hn

theorem high_low (b : UInt8) : b / 16 < 16 ∧ b % 16 < 16 ∧ b / 16 * 16 + b % 16 = b := by
  have hb := b.toNat_lt
  refine ⟨UInt8.lt_iff_toNat_lt.2 ?_, UInt8.lt_iff_toNat_lt.2 ?_, UInt8.toNat.inj ?_⟩
  · show b.toNat / 16 < 16
    omega
  · show b.toNat % 16 < 16
    omega
  · show ((b.toNat / 16 * 16) % 256 + b.toNat % 16) % 256 = b.toNat
    omega

theorem mem_hexText {bytes : List UInt8} {c : Char} (h : c ∈ hexText bytes) :
    ∃ n : UInt8, n < 16 ∧ c = hexDigit n := by
  obtain ⟨b, -, hc⟩ := List.mem_flatMap.1 h
  obtain ⟨hhigh, hlow, -⟩ := high_low b
  rcases List.mem_cons.1 hc with rfl | hc
  · exact ⟨_, hhigh, rfl⟩
  · exact ⟨_, hlow, List.mem_singleton.1 hc⟩

theorem ascii_hexText (bytes : List UInt8) : Ascii (hexText bytes) := by
  intro c hc
  obtain ⟨n, hn, rfl⟩ := mem_hexText hc
  exact (hexDigit_spec hn).1

theorem isBlank_hexText {bytes : List UInt8} {c : Char} (h : c ∈ hexText bytes) :
    isBlank c = false := by
  obtain ⟨n, hn, rfl⟩ := mem_hexText h
  exact (hexDigit_spec hn).2.1

theorem length_hexText (bytes : List UInt8) : (hexText bytes).length = 2 * bytes.length := by
  induction bytes with
  | nil => rfl
  | cons b rest ih =>
    show (hexText rest).length + 2 = 2 * (rest.length + 1)
    omega

theorem readHexPairs_hexText (position : Nat) (bytes : List UInt8) :
    readHexPairs position ((hexText bytes).map fun c => c.val.toUInt8) = .ok bytes := by
  induction bytes generalizing position with
  | nil => rfl
  | cons b rest ih =>
    obtain ⟨hhigh, hlow, hb⟩ := high_low b
    show readHexPairs position ((hexDigit (b / 16)).val.toUInt8 ::
      (hexDigit (b % 16)).val.toUInt8 :: (hexText rest).map fun c => c.val.toUInt8) = _
    rw [readHexPairs, (hexDigit_spec hhigh).2.2, (hexDigit_spec hlow).2.2]
    dsimp only
    rw [ih, hb]
    rfl

/-- A row of bytes is read back from its text. -/
theorem readHex_hexText (bytes : List UInt8) : readHex (hexText bytes) = .ok bytes := by
  unfold readHex
  rw [utf8_of_ascii (ascii_hexText bytes)]
  dsimp only
  rw [List.length_map, length_hexText, if_neg (by omega)]
  exact readHexPairs_hexText 0 bytes

end Text

end Xacml
