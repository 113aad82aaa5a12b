/-
Laws of the parts that written values are made of. A row of decimal digits denotes the number it was
written for, with zeros in front or without; digits and the marks between them are no blanks, so
that trimming leaves them alone; and a text of ASCII characters has one byte for each character.
-/
import Xacml.Integer
import Xacml.Text.Blank
import Xacml.Text.Bytes
import Mathlib.Algebra.Group.Nat.Defs
import Mathlib.Data.List.TakeDrop

namespace Xacml.Text

/-! ## Blanks -/

theorem trimEnd_prefix (s : List Char) : trimEnd s <+: s := by
  have h : trimStart s.reverse <:+ s.reverse := List.dropWhile_suffix isBlank
  simpa [trimEnd] using List.reverse_prefix.2 h

theorem trimEnd_trimEnd (s : List Char) : trimEnd (trimEnd s) = trimEnd s := by
  unfold trimEnd
  rw [List.reverse_reverse, trimStart_trimStart]

theorem trimStart_trim (s : List Char) : trimStart (trim s) = trim s := by
  refine trimStart_eq_self fun c hc => ?_
  obtain ⟨rest, hrest⟩ := trimEnd_prefix (trimStart s)
  -- the first character that is left was the first before the end was trimmed
  refine head_trimStart s c ?_
  rw [← hrest, List.head?_append, show (trimEnd (trimStart s)).head? = some c from hc]
  rfl

/-- What has been trimmed has no blanks left to trim. -/
theorem trim_trim (s : List Char) : trim (trim s) = trim s := by
  show trimEnd (trimStart (trim s)) = trim s
  rw [trimStart_trim]
  exact trimEnd_trimEnd _

theorem trim_eq_self {s : List Char} (h : ∀ c ∈ s, isBlank c = false) : trim s = s := by
  have hstart : trimStart s = s := trimStart_eq_self fun c hc => h c (List.mem_of_mem_head? hc)
  have hend : trimStart s.reverse = s.reverse :=
    trimStart_eq_self fun c hc => h c (List.mem_reverse.1 (List.mem_of_mem_head? hc))
  unfold trim trimEnd
  rw [hstart, hend, List.reverse_reverse]

/-! ## Digits -/

theorem digit_bounds {c : Char} (h : c.isDigit = true) : 48 ≤ c.toNat ∧ c.toNat ≤ 57 := by
  simp only [Char.isDigit, Bool.and_eq_true, decide_eq_true_eq, ge_iff_le, UInt32.le_iff_toNat_le] at h
  exact h

theorem isBlank_of_isDigit {c : Char} (h : c.isDigit = true) : isBlank c = false := by
  obtain ⟨hlow, hhigh⟩ := digit_bounds h
  simp [isBlank, blanks]
  omega

theorem digitsValue_eq (digits : List Char) : digitsValue digits = Nat.ofDigitChars 10 digits 0 := by
  unfold digitsValue
  rw [Nat.ofDigitChars_eq_foldl]
  simp only [Nat.mul_comm]

theorem digitsValue_append_zeros (n : Nat) (digits : List Char) :
    digitsValue (List.replicate n '0' ++ digits) = digitsValue digits := by
  unfold digitsValue
  induction n with
  | zero => rfl
  | succ n ih => simpa [List.replicate_succ] using ih

theorem digitsValue_padded (width n : Nat) : digitsValue (padded width n) = n := by
  unfold padded
  rw [digitsValue_append_zeros, digitsValue_eq]
  exact Nat.ofDigitChars_toDigits (by decide) (by decide)

theorem isDigit_of_mem_padded {width n : Nat} {c : Char} (h : c ∈ padded width n) :
    c.isDigit = true := by
  unfold padded at h
  rcases List.mem_append.1 h with h | h
  · rw [List.eq_of_mem_replicate h]
    rfl
  · exact Nat.isDigit_of_mem_toDigits (by decide) (by decide) h

theorem padded_ne_nil (width n : Nat) : padded width n ≠ [] := by
  unfold padded
  intro h
  exact Nat.toDigits_ne_nil (List.append_eq_nil_iff.1 h).2

theorem length_padded {width n : Nat} (hwidth : 0 < width) (h : n < 10 ^ width) :
    (padded width n).length = width := by
  have hle := (Nat.length_toDigits_le_iff (by decide) hwidth).2 h
  unfold padded
  simp
  omega

/-! ## Bytes -/

/-- Every character is one of ASCII. -/
def Ascii (s : List Char) : Prop := ∀ c ∈ s, c.toNat < 128

variable {s : List Char}

theorem utf8Size_of_ascii {c : Char} (h : c.toNat < 128) : c.utf8Size = 1 := by
  rw [Char.utf8Size_eq_one_iff, UInt32.le_iff_toNat_le]
  show c.toNat ≤ 127
  omega

theorem utf8_of_ascii (h : Ascii s) : utf8 s = s.map fun c => c.val.toUInt8 := by
  induction s with
  | nil => rfl
  | cons c rest ih =>
    obtain ⟨hc, hrest⟩ := List.forall_mem_cons.1 h
    rw [utf8_cons, ih hrest, String.utf8EncodeChar_eq_singleton (utf8Size_of_ascii hc)]
    rfl

@[simp] theorem byteLength_nil : byteLength [] = 0 := rfl

@[simp] theorem byteLength_cons (c : Char) (s : List Char) :
    byteLength (c :: s) = c.utf8Size + byteLength s := by
  have hfold : ∀ n, s.foldl (fun n c => n + c.utf8Size) n = n + byteLength s := by
    unfold byteLength
    induction s with
    | nil => exact fun n => rfl
    | cons d s ih =>
      intro n
      rw [List.foldl_cons, List.foldl_cons, ih, ih (0 + _)]
      omega
  exact (hfold (0 + c.utf8Size)).trans (by rw [Nat.zero_add])

@[simp] theorem byteLength_append (s t : List Char) :
    byteLength (s ++ t) = byteLength s + byteLength t := by
  induction s with
  | nil => exact (Nat.zero_add _).symm
  | cons c s ih =>
    rw [List.cons_append, byteLength_cons, byteLength_cons, ih, Nat.add_assoc]

theorem byteLength_of_ascii (h : Ascii s) : byteLength s = s.length := by
  induction s with
  | nil => rfl
  | cons c rest ih =>
    obtain ⟨hc, hrest⟩ := List.forall_mem_cons.1 h
    rw [byteLength_cons, ih hrest, utf8Size_of_ascii hc, List.length_cons, Nat.add_comm]

/-- A text is split where its front has the given number of bytes. -/
theorem splitAtByte?_eq_some {n : Nat} {front back : List Char} :
    splitAtByte? n s = some (front, back) ↔ s = front ++ back ∧ byteLength front = n := by
  induction s generalizing n front with
  | nil =>
    cases n with
    | zero =>
      rw [splitAtByte?]
      constructor
      · rintro ⟨⟩
        exact ⟨rfl, rfl⟩
      · rintro ⟨hsplit, -⟩
        obtain ⟨rfl, rfl⟩ := List.append_eq_nil_iff.1 hsplit.symm
        rfl
    | succ n =>
      rw [splitAtByte?]
      constructor
      · rintro ⟨⟩
      · rintro ⟨hsplit, hlength⟩
        obtain ⟨rfl, -⟩ := List.append_eq_nil_iff.1 hsplit.symm
        cases hlength
  | cons c rest ih =>
    have hsize := c.utf8Size_pos
    cases n with
    | zero =>
      rw [splitAtByte?]
      constructor
      · rintro ⟨⟩
        exact ⟨rfl, rfl⟩
      · rintro ⟨hsplit, hlength⟩
        cases front with
        | nil => rw [hsplit, List.nil_append]
        | cons d front =>
          cases hsplit
          rw [byteLength_cons] at hlength
          omega
    | succ n =>
      rw [splitAtByte?]
      constructor
      · intro h
        split_ifs at h with hfits
        obtain ⟨⟨front', back'⟩, hrest, heq⟩ := Option.map_eq_some_iff.1 h
        cases heq
        obtain ⟨rfl, hlength⟩ := ih.1 hrest
        exact ⟨rfl, by rw [byteLength_cons]; omega⟩
      · rintro ⟨hsplit, hlength⟩
        cases front with
        | nil => cases hlength
        | cons d front =>
          cases hsplit
          rw [byteLength_cons] at hlength
          rw [if_pos (by omega), ih.2 ⟨rfl, by omega⟩]
          rfl

/-- The bytes of a character that is not one of ASCII are none either. -/
theorem le_of_mem_utf8EncodeChar {c : Char} (hc : 128 ≤ c.toNat) {b : UInt8}
    (hb : b ∈ String.utf8EncodeChar c) : 128 ≤ b.toNat := by
  have hc : ¬ c.val.toNat ≤ 127 := Nat.not_le_of_lt hc
  revert hb
  fun_cases String.utf8EncodeChar c
  · contradiction
  all_goals
    simp only [List.mem_cons, List.not_mem_nil, or_false]
    rintro (rfl | rfl | rfl | rfl) <;> simp only [UInt8.toNat_ofNat'] <;> omega

/-- The bytes of a character hold a byte of ASCII only if they are that character's only byte. -/
theorem utf8EncodeChar_getElem?_eq_some {c d : Char} (hc : c.toNat < 128) {i : Nat} :
    (String.utf8EncodeChar d)[i]? = some c.toUInt8 ↔ d = c ∧ i = 0 := by
  have hbyte : c.toUInt8.toNat = c.toNat := by
    rw [Char.toUInt8, UInt32.toNat_toUInt8]
    exact Nat.mod_eq_of_lt (by show c.toNat < 256; omega)
  constructor
  · intro h
    have hd : d.toNat < 128 := by
      by_contra hd
      have := le_of_mem_utf8EncodeChar (Nat.le_of_not_lt hd) (List.mem_of_getElem? h)
      omega
    rw [String.utf8EncodeChar_eq_singleton (utf8Size_of_ascii hd), List.getElem?_singleton] at h
    split_ifs at h with hi
    have hval : d.val.toUInt8.toNat = c.toUInt8.toNat := congrArg UInt8.toNat (Option.some.inj h)
    rw [hbyte, UInt32.toNat_toUInt8] at hval
    exact ⟨Char.toNat_inj.1 ((Nat.mod_eq_of_lt (by show d.toNat < 256; omega)).symm.trans hval), hi⟩
  · rintro ⟨rfl, rfl⟩
    rw [String.utf8EncodeChar_eq_singleton (utf8Size_of_ascii hc)]
    rfl

/-- A byte of ASCII is that of a character, which stands after as many bytes as the byte does. -/
theorem utf8_getElem?_eq_some {c : Char} (hc : c.toNat < 128) {i : Nat} :
    (utf8 s)[i]? = some c.toUInt8 ↔
      ∃ front back, s = front ++ c :: back ∧ byteLength front = i := by
  induction s generalizing i with
  | nil =>
    constructor
    · rintro ⟨⟩
    · rintro ⟨front, back, hsplit, -⟩
      cases (List.append_eq_nil_iff.1 hsplit.symm).2
  | cons d s ih =>
    rw [utf8_cons, List.getElem?_append, String.length_utf8EncodeChar]
    split_ifs with hi
    · rw [utf8EncodeChar_getElem?_eq_some hc]
      constructor
      · rintro ⟨rfl, rfl⟩
        exact ⟨[], s, rfl, rfl⟩
      · rintro ⟨_ | ⟨e, front⟩, back, hsplit, rfl⟩
        · cases hsplit
          exact ⟨rfl, rfl⟩
        · cases hsplit
          rw [byteLength_cons] at hi
          omega
    · rw [ih]
      constructor
      · rintro ⟨front, back, rfl, hlength⟩
        exact ⟨d :: front, back, rfl, by rw [byteLength_cons]; omega⟩
      · rintro ⟨_ | ⟨e, front⟩, back, hsplit, rfl⟩
        · exact absurd d.utf8Size_pos hi
        · cases hsplit
          exact ⟨front, back, rfl, by rw [byteLength_cons]; omega⟩

end Xacml.Text
