/-
Written dates and times of day. Fields are written at their full width, so that each is read back
whatever follows it; only a year with a sign and a fraction of a second go on as long as there are
digits. No timezone is cut from what is written: a date has no colon and a time has no sign. Main
statements: a date and a time are read back from their texts, leap seconds and years of any width
included.
-/
import Xacml.Calendar.Text
import Xacml.Proofs.Lexical.Text

namespace Xacml.Calendar

open Text

/-! ## Numbers -/

theorem read_bind {α β : Type} (a : α) (f : α → Except Fault β) : (Except.ok a >>= f) = f a := (rfl)

/-- No digit stands at the front. -/
def NoDigitAhead (s : List Char) : Prop := ∀ c ∈ s.head?, c.isDigit = false

theorem noDigitAhead_cons {c : Char} {s : List Char} (h : c.isDigit = false) :
    NoDigitAhead (c :: s) := by
  rintro _ ⟨⟩
  exact h

variable {digits rest : List Char}

theorem takeWhile_digits (hdigits : ∀ c ∈ digits, c.isDigit = true) (hrest : NoDigitAhead rest) :
    (digits ++ rest).takeWhile Char.isDigit = digits := by
  rw [List.takeWhile_append_of_pos hdigits]
  cases rest with
  | nil => exact List.append_nil digits
  | cons c rest =>
    rw [List.takeWhile_cons_of_neg (by simpa using hrest c rfl), List.append_nil]

/-- The digits at the front, as many of them as a number takes. -/
def frontDigits (width : Option Nat) (s : List Char) : List Char :=
  match width with
  | some n => (s.takeWhile Char.isDigit).take n
  | none => s.takeWhile Char.isDigit

theorem number_eq (width : Option Nat) {s : List Char} (h : s ≠ []) :
    number width s =
      if (frontDigits width s).isEmpty then .error .invalid
      else .ok (digitsValue (frontDigits width s), s.drop (frontDigits width s).length) := by
  cases s with
  | nil => exact absurd rfl h
  | cons c s => rfl

/-- A row of digits is taken as a whole if it is as wide as it may be, or if no digit follows. -/
theorem frontDigits_append {width : Option Nat} (hdigits : ∀ c ∈ digits, c.isDigit = true)
    (h : width = some digits.length ∨
      (∀ n ∈ width, digits.length ≤ n) ∧ NoDigitAhead rest) :
    frontDigits width (digits ++ rest) = digits := by
  rcases h with rfl | ⟨hwidth, hrest⟩
  · unfold frontDigits
    dsimp only
    rw [List.takeWhile_append_of_pos hdigits, List.take_left]
  · unfold frontDigits
    rw [takeWhile_digits hdigits hrest]
    cases width with
    | none => rfl
    | some n => exact List.take_of_length_le (hwidth n rfl)

theorem number_digits {width : Option Nat} (hne : digits ≠ [])
    (hdigits : ∀ c ∈ digits, c.isDigit = true)
    (h : width = some digits.length ∨
      (∀ n ∈ width, digits.length ≤ n) ∧ NoDigitAhead rest) :
    number width (digits ++ rest) = .ok (digitsValue digits, rest) := by
  rw [number_eq width (by simp [hne]), frontDigits_append hdigits h, List.drop_left]
  simp [hne]

theorem number_padded {width n : Nat} (hwidth : 0 < width) (h : n < 10 ^ width) :
    number (some width) (padded width n ++ rest) = .ok (n, rest) := by
  rw [number_digits (padded_ne_nil width n) (fun _ => isDigit_of_mem_padded)
    (.inl (by rw [length_padded hwidth h])), digitsValue_padded]

/-! ## Fields -/

theorem head?_padded {width n : Nat} {c : Char} (h : c ∈ (padded width n ++ rest).head?) :
    c.isDigit = true := by
  obtain ⟨d, digits, hpadded⟩ := List.exists_cons_of_ne_nil (padded_ne_nil width n)
  rw [hpadded] at h
  obtain rfl : d = c := Option.some.inj h
  exact isDigit_of_mem_padded (hpadded ▸ List.mem_cons_self)

/-- There are no blanks before digits. -/
theorem trimStart_padded (width n : Nat) :
    trimStart (padded width n ++ rest) = padded width n ++ rest :=
  trimStart_eq_self fun _ hc => isBlank_of_isDigit (head?_padded hc)

theorem literal_cons (c : Char) : literal c (c :: rest) = .ok ((), rest) := if_pos rfl

theorem field_padded {low high n : Nat} (hlow : low ≤ n) (hhigh : n ≤ high) (h : n < 100) :
    field low high (padded 2 n ++ rest) = .ok (n, rest) := by
  unfold field
  rw [trimStart_padded, number_padded (by decide) h]
  exact if_pos ⟨hlow, hhigh⟩

/-- The check that a year makes once its digits are read. -/
def inYearRange (r : Int × List Char) : Except Fault (Int × List Char) :=
  if -0x80000000 ≤ r.1 ∧ r.1 < 0x80000000 then .ok r else .error .outOfRange

theorem inYearRange_eq_ok {year : Int} (h : YearInRange year) (rest : List Char) :
    inYearRange (year, rest) = .ok (year, rest) := by
  obtain ⟨hlow, hhigh⟩ := h
  unfold inYearRange
  rw [if_pos ⟨by omega, by omega⟩]

/-- A year is read if its digits are, and what they denote with their sign is in range. -/
theorem signed_eq_ok {width : Option Nat} {f : Nat → Int} {s : List Char} {year : Int} :
    (number width s).map (fun r => (f r.1, r.2)) >>= inYearRange = .ok (year, rest) ↔
      ∃ n, number width s = .ok (n, rest) ∧ year = f n ∧ -0x80000000 ≤ f n ∧ f n < 0x80000000 := by
  cases number width s with
  | error e => exact ⟨by rintro ⟨⟩, by rintro ⟨_, ⟨⟩, -⟩⟩
  | ok r =>
    rw [Except.map, read_bind, inYearRange]
    constructor
    · intro h
      split_ifs at h with hrange
      cases h
      exact ⟨r.1, rfl, rfl, hrange⟩
    · rintro ⟨n, ⟨⟩, rfl, hrange⟩
      exact if_pos hrange

theorem yearField_minus (s : List Char) : yearField ('-' :: s) =
    (number none s).map (fun r => (-(r.1 : Int), r.2)) >>= inYearRange := rfl

theorem yearField_plus (s : List Char) : yearField ('+' :: s) =
    (number none s).map (fun r => ((r.1 : Int), r.2)) >>= inYearRange := rfl

theorem yearField_unsigned {s : List Char} (h : ∀ c ∈ (trimStart s).head?, c ≠ '-' ∧ c ≠ '+') :
    yearField s = (number (some 4) (trimStart s)).map (fun r => ((r.1 : Int), r.2)) >>=
      inYearRange := by
  unfold yearField
  split
  · rename_i ht
    rw [ht] at h
    exact absurd rfl (h _ rfl).1
  · rename_i ht
    rw [ht] at h
    exact absurd rfl (h _ rfl).2
  · rfl

/-- A year is written without a sign if four digits are enough. -/
theorem yearField_yearText {year : Int} (h : YearInRange year) (hrest : NoDigitAhead rest) :
    yearField (yearText year ++ rest) = .ok (year, rest) := by
  have hlong : number none (padded 4 year.natAbs ++ rest) = .ok (year.natAbs, rest) := by
    rw [number_digits (padded_ne_nil 4 _) (fun _ => isDigit_of_mem_padded)
      (.inr ⟨fun _ h => (by cases h), hrest⟩), digitsValue_padded]
  unfold yearText
  split
  · rename_i hfour
    have hshort : number (some 4) (padded 4 year.toNat ++ rest) = .ok (year.toNat, rest) :=
      number_padded (by decide) (by omega)
    have hyear : (year.toNat : Int) = year := Int.toNat_of_nonneg hfour.1
    rw [yearField_unsigned, trimStart_padded, hshort, Except.map, read_bind, hyear,
      inYearRange_eq_ok h]
    intro c hc
    rw [trimStart_padded] at hc
    have hdigit := head?_padded hc
    constructor <;> (rintro rfl; cases hdigit)
  · rw [List.cons_append]
    split
    · have hyear : -(year.natAbs : Int) = year := by omega
      rw [yearField_minus, hlong, Except.map, read_bind, hyear, inYearRange_eq_ok h]
    · have hyear : (year.natAbs : Int) = year := by omega
      rw [yearField_plus, hlong, Except.map, read_bind, hyear, inYearRange_eq_ok h]

/-! ## Dates -/

theorem Date.day_le (d : Date) : d.day ≤ 31 := by
  obtain ⟨-, -, -, -, hday⟩ := d.valid
  refine Nat.le_trans hday ?_
  unfold daysInMonth
  split_ifs <;> decide

theorem dateFields_chars (d : Date) (rest : List Char) :
    dateFields (d.chars ++ rest) = .ok ((d.year, d.month, d.day), rest) := by
  obtain ⟨hyear, hmonth, hmonth', hday, -⟩ := d.valid
  have hdays := d.day_le
  have hchars : d.chars ++ rest = yearText d.year ++ ('-' :: (padded 2 d.month ++
      ('-' :: (padded 2 d.day ++ rest)))) := by
    unfold Date.chars
    simp only [List.append_assoc, List.cons_append]
  unfold dateFields
  rw [hchars, yearField_yearText hyear (noDigitAhead_cons rfl), read_bind]
  dsimp only
  rw [literal_cons, read_bind]
  dsimp only
  rw [field_padded hmonth hmonth' (by omega), read_bind]
  dsimp only
  rw [literal_cons, read_bind]
  dsimp only
  rw [field_padded hday hdays (by omega), read_bind]

theorem dateOf_fields (d : Date) : dateOf (d.year, d.month, d.day) = .ok d := by
  unfold dateOf Date.ofFields?
  rw [dif_pos d.valid]

theorem readBareDate_chars (d : Date) : readBareDate d.chars = .ok d := by
  have h := dateFields_chars d []
  rw [List.append_nil] at h
  unfold readBareDate whole
  rw [h]
  exact dateOf_fields d

/-! ## Times -/

theorem nanoseconds_padded {width n : Nat} (hwidth : 0 < width) (hnine : width ≤ 9)
    (h : n < 10 ^ width) : nanoseconds (padded width n) = n * 10 ^ (9 - width) := by
  have hlength := length_padded hwidth h
  unfold nanoseconds
  dsimp only
  rw [List.take_of_length_le (by omega), digitsValue_padded, hlength]
  rfl

/-- The fraction that follows a second, if neither a digit nor a point follows. -/
theorem fraction_padded {width n : Nat} (hwidth : 0 < width) (hnine : width ≤ 9)
    (h : n < 10 ^ width) (hrest : NoDigitAhead rest) :
    fraction ('.' :: padded width n ++ rest) = .ok (n * 10 ^ (9 - width), rest) := by
  have hdigits : ∀ c ∈ padded width n, c.isDigit = true := fun _ => isDigit_of_mem_padded
  have hnumber : number (some 9) (padded width n ++ rest) =
      .ok (digitsValue (padded width n), rest) := by
    refine number_digits (padded_ne_nil width n) hdigits (.inr ⟨?_, hrest⟩)
    rintro _ ⟨⟩
    rw [length_padded hwidth h]
    exact hnine
  rw [List.cons_append, fraction, hnumber, read_bind, takeWhile_digits hdigits hrest]
  dsimp only
  rw [nanoseconds_padded hwidth hnine h, List.drop_left]

theorem fraction_fractionText {nano : Nat} (h : nano < 1000000000) (hrest : NoDigitAhead rest)
    (hpoint : rest.head? ≠ some '.') : fraction (fractionText nano ++ rest) = .ok (nano, rest) := by
  unfold fractionText
  split_ifs with hzero hmilli hmicro
  · subst hzero
    cases rest with
    | nil => rfl
    | cons c rest =>
      unfold fraction
      split
      · rename_i heq
        cases heq
        exact absurd rfl hpoint
      · rfl
  · rw [fraction_padded (by decide) (by decide) (by omega) hrest]
    exact congrArg (fun n => Except.ok (n, rest)) (by omega)
  · rw [fraction_padded (by decide) (by decide) (by omega) hrest]
    exact congrArg (fun n => Except.ok (n, rest)) (by omega)
  · rw [fraction_padded (by decide) (by decide) (by omega) hrest]
    exact congrArg (fun n => Except.ok (n, rest)) (by omega)

theorem timeFields_chars (t : Time) (hrest : NoDigitAhead rest) (hpoint : rest.head? ≠ some '.') :
    timeFields (t.chars ++ rest) =
      .ok ((t.hour, t.minute, t.second + t.nano / 1000000000, t.nano % 1000000000), rest) := by
  obtain ⟨hhour, hminute, hsecond, hnano, -⟩ := t.valid
  have hchars : t.chars ++ rest = padded 2 t.hour ++ (':' :: (padded 2 t.minute ++
      (':' :: (padded 2 (t.second + t.nano / 1000000000) ++
        (fractionText (t.nano % 1000000000) ++ rest))))) := by
    unfold Time.chars
    simp only [List.append_assoc, List.cons_append]
  unfold timeFields
  rw [hchars, field_padded (by omega) (by omega) (by omega), read_bind]
  dsimp only
  rw [literal_cons, read_bind]
  dsimp only
  rw [field_padded (by omega) (by omega) (by omega), read_bind]
  dsimp only
  rw [literal_cons, read_bind]
  dsimp only
  rw [field_padded (by omega) (by omega) (by omega), read_bind]
  dsimp only
  rw [fraction_fractionText (by omega) hrest hpoint, read_bind]

/-- The leap second is the second after 59. -/
theorem timeOf_fields (t : Time) :
    timeOf (t.hour, t.minute, t.second + t.nano / 1000000000, t.nano % 1000000000) = .ok t := by
  obtain ⟨hhour, hminute, hsecond, hnano, hleap⟩ := t.valid
  unfold timeOf Time.ofFields?
  dsimp only
  by_cases h : 1000000000 ≤ t.nano
  · have hfiftynine := hleap h
    have hnanos : t.nano % 1000000000 + 1000000000 = t.nano := by omega
    rw [if_pos (by omega), hnanos, ← hfiftynine, dif_pos t.valid]
  · have hquotient : t.nano / 1000000000 = 0 := by omega
    have hremainder : t.nano % 1000000000 = t.nano := by omega
    rw [if_neg (by omega), hquotient, hremainder, Nat.add_zero, dif_pos t.valid]

theorem readBareTime_chars (t : Time) : readBareTime t.chars = .ok t := by
  have h := timeFields_chars t (show NoDigitAhead [] by rintro _ ⟨⟩) (by simp)
  rw [List.append_nil] at h
  unfold readBareTime whole
  rw [h]
  exact timeOf_fields t

/-! ## Timezones -/

/-- The marks that occur in dates and times beside digits. -/
def IsMark (c : Char) : Prop := c = '-' ∨ c = '+' ∨ c = ':' ∨ c = '.'

theorem ascii_of_isDigit {c : Char} (h : c.isDigit = true) : c.toNat < 128 := by
  have := digit_bounds h
  omega

theorem isBlank_of_isMark {c : Char} (h : IsMark c) : isBlank c = false := by
  rcases h with rfl | rfl | rfl | rfl <;> decide

theorem mem_yearText {year : Int} {c : Char} (h : c ∈ yearText year) :
    c.isDigit = true ∨ c = '-' ∨ c = '+' := by
  unfold yearText at h
  split_ifs at h
  · exact .inl (isDigit_of_mem_padded h)
  · rcases List.mem_cons.1 h with rfl | h
    · exact .inr (.inl rfl)
    · exact .inl (isDigit_of_mem_padded h)
  · rcases List.mem_cons.1 h with rfl | h
    · exact .inr (.inr rfl)
    · exact .inl (isDigit_of_mem_padded h)

theorem Date.mem_chars {d : Date} {c : Char} (h : c ∈ d.chars) :
    c.isDigit = true ∨ c = '-' ∨ c = '+' := by
  unfold Date.chars at h
  simp only [List.mem_append, List.mem_cons] at h
  rcases h with (h | rfl | h) | rfl | h
  · exact mem_yearText h
  · exact .inr (.inl rfl)
  · exact .inl (isDigit_of_mem_padded h)
  · exact .inr (.inl rfl)
  · exact .inl (isDigit_of_mem_padded h)

theorem mem_fractionText {nano : Nat} {c : Char} (h : c ∈ fractionText nano) :
    c.isDigit = true ∨ c = '.' := by
  unfold fractionText at h
  split_ifs at h
  · cases h
  all_goals
    rcases List.mem_cons.1 h with rfl | h
    · exact .inr rfl
    · exact .inl (isDigit_of_mem_padded h)

theorem Time.mem_chars {t : Time} {c : Char} (h : c ∈ t.chars) :
    c.isDigit = true ∨ c = ':' ∨ c = '.' := by
  unfold Time.chars at h
  simp only [List.mem_append, List.mem_cons] at h
  rcases h with ((h | rfl | h) | rfl | h) | h
  · exact .inl (isDigit_of_mem_padded h)
  · exact .inr (.inl rfl)
  · exact .inl (isDigit_of_mem_padded h)
  · exact .inr (.inl rfl)
  · exact .inl (isDigit_of_mem_padded h)
  · exact (mem_fractionText h).imp_right .inr

/-- No timezone is cut from a text without `Z` that has no colon, or no sign. -/
theorem withoutZone_eq_self {s : List Char} (hzulu : 'Z' ∉ s)
    (hmarks : ':' ∉ s ∨ '+' ∉ s ∧ '-' ∉ s) : withoutZone s = s := by
  unfold withoutZone
  split
  · rename_i rest hrest
    refine absurd (List.mem_reverse.1 ?_) hzulu
    rw [hrest]
    exact List.mem_cons_self
  · dsimp only
    split
    · rfl
    · split
      · rfl
      rename_i front back hsplit
      obtain ⟨rfl, -⟩ := splitAtByte?_eq_some.1 hsplit
      have hmem : ∀ {i : Nat} {c : Char}, c.toNat < 128 → (utf8 back)[i]? = some c.toUInt8 →
          c ∈ front ++ back := by
        intro i c hc hi
        obtain ⟨_, _, rfl, -⟩ := (utf8_getElem?_eq_some hc).1 hi
        simp
      -- a timezone would have both a sign and a colon
      refine if_neg fun hzone => ?_
      simp only [Bool.and_eq_true, Bool.or_eq_true, decide_eq_true_eq] at hzone
      obtain ⟨⟨hsign, hcolon⟩, -⟩ := hzone
      rcases hmarks with hnone | ⟨hplus, hminus⟩
      · exact hnone (hmem (by decide) hcolon)
      · rcases hsign with hsign | hsign
        · exact hplus (hmem (by decide) hsign)
        · exact hminus (hmem (by decide) hsign)

theorem Date.isMark_of_mem_chars {d : Date} {c : Char} (h : c ∈ d.chars) :
    c.isDigit = true ∨ IsMark c :=
  (mem_chars h).imp_right fun h => h.imp_right .inl

theorem Time.isMark_of_mem_chars {t : Time} {c : Char} (h : c ∈ t.chars) :
    c.isDigit = true ∨ IsMark c :=
  (mem_chars h).imp_right fun h => .inr (.inr h)

/-- A date is read back from its text. -/
theorem readDate_chars (d : Date) : readDate d.chars = .ok d := by
  have hzone : withoutZone d.chars = d.chars := by
    refine withoutZone_eq_self ?_ (.inl ?_)
    · exact fun h => absurd (Date.mem_chars h) (by decide)
    · exact fun h => absurd (Date.mem_chars h) (by decide)
  unfold readDate
  rw [hzone, readBareDate_chars]

/-- A time is read back from its text. -/
theorem readTime_chars (t : Time) : readTime t.chars = .ok t := by
  have hzone : withoutZone t.chars = t.chars := by
    refine withoutZone_eq_self ?_ (.inr ⟨?_, ?_⟩)
    · exact fun h => absurd (Time.mem_chars h) (by decide)
    · exact fun h => absurd (Time.mem_chars h) (by decide)
    · exact fun h => absurd (Time.mem_chars h) (by decide)
  unfold readTime
  rw [hzone, readBareTime_chars]

end Xacml.Calendar
