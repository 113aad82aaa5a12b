/-
DateTimes without a timezone. Only the lenient form reads them, and they mean UTC; with a `Z` at the end
only the strict form can read them. Both forms read the same fields, but the lenient one also takes
narrow fields, blanks before them and years with a sign. Main statement: a `Z` at the end makes no
difference if every field is written at its full width, and otherwise the text is refused, because the
lenient form reads it up to the `Z` and stops there.
-/
import Xacml.Proofs.Lexical.DateTime

namespace Xacml

namespace Calendar

open Text

/-! ## Full widths -/

/-- Whether a text starts like another, in which `0` stands for any digit. -/
def startsLike : List Char → List Char → Bool
  | [], _ => true
  | _ :: _, [] => false
  | p :: ps, c :: cs => (if p = '0' then c.isDigit else c == p) && startsLike ps cs

/-- Every field up to the second is written at its full width. -/
def FullWidth (s : List Char) : Prop := startsLike "0000-00-00T00:00:00".toList s = true

instance (s : List Char) : Decidable (FullWidth s) := inferInstanceAs (Decidable (_ = _))

variable {s rest : List Char}

theorem exactly_eq_ok {n v : Nat} (h : exactly n s = .ok (v, rest)) :
    ∃ digits : List Char, digits.length = n ∧ (∀ c ∈ digits, c.isDigit = true) ∧
      s = digits ++ rest ∧ v = digitsValue digits := by
  unfold exactly at h
  dsimp only at h
  split_ifs at h with hdigits
  cases h
  simp only [Bool.and_eq_true, decide_eq_true_eq, List.all_eq_true] at hdigits
  exact ⟨s.take n, hdigits.1, hdigits.2, (List.take_append_drop n s).symm, rfl⟩

theorem literal_eq_ok {c : Char} {u : Unit} : literal c s = .ok (u, rest) ↔ s = c :: rest := by
  cases s with
  | nil => exact ⟨nofun, nofun⟩
  | cons d s =>
    rw [literal]
    split_ifs with hc
    · simp [hc]
    · simp [Ne.symm hc]

/-- Digits at the front of a pattern stand for as many digits. -/
theorem startsLike_digits (n : Nat) {pattern : List Char} :
    startsLike (List.replicate n '0' ++ pattern) s = true ↔
      ∃ digits rest : List Char, digits.length = n ∧ (∀ c ∈ digits, c.isDigit = true) ∧
        s = digits ++ rest ∧ startsLike pattern rest = true := by
  induction n generalizing s with
  | zero =>
    constructor
    · exact fun h => ⟨[], s, rfl, List.forall_mem_nil _, rfl, h⟩
    · rintro ⟨digits, rest, hlength, -, rfl, h⟩
      rw [List.eq_nil_of_length_eq_zero hlength]
      exact h
  | succ n ih =>
    rw [List.replicate_succ, List.cons_append]
    cases s with
    | nil =>
      constructor
      · exact nofun
      · rintro ⟨digits, rest, hlength, -, hsplit, -⟩
        rw [(List.append_eq_nil_iff.1 hsplit.symm).1] at hlength
        cases hlength
    | cons c s =>
      rw [startsLike, if_pos rfl, Bool.and_eq_true, ih]
      constructor
      · rintro ⟨hc, digits, rest, rfl, hdigits, rfl, h⟩
        exact ⟨c :: digits, rest, rfl, List.forall_mem_cons.2 ⟨hc, hdigits⟩, rfl, h⟩
      · rintro ⟨_ | ⟨d, digits⟩, rest, hlength, hdigits, hsplit, h⟩
        · cases hlength
        · rw [List.forall_mem_cons] at hdigits
          cases hsplit
          exact ⟨hdigits.1, digits, rest, Nat.succ.inj hlength, hdigits.2, rfl, h⟩

/-- Digits at the front of a pattern are digits that can be read. -/
theorem startsLike_exactly (n : Nat) {pattern : List Char} :
    startsLike (List.replicate n '0' ++ pattern) s = true ↔
      ∃ v rest, exactly n s = .ok (v, rest) ∧ startsLike pattern rest = true := by
  rw [startsLike_digits]
  constructor
  · rintro ⟨digits, rest, rfl, hdigits, rfl, h⟩
    exact ⟨_, rest, exactly_digits rest hdigits, h⟩
  · rintro ⟨v, rest, hread, h⟩
    obtain ⟨digits, hlength, hdigits, hsplit, -⟩ := exactly_eq_ok hread
    exact ⟨digits, rest, hlength, hdigits, hsplit, h⟩

theorem startsLike_mark {c : Char} (hc : c ≠ '0') {pattern : List Char} :
    startsLike (c :: pattern) s = true ↔ ∃ rest, s = c :: rest ∧ startsLike pattern rest = true := by
  cases s with
  | nil => simp [startsLike]
  | cons d s => simp [startsLike, hc]

/-- A character that does not stand in the pattern makes no difference at the end. -/
theorem startsLike_append {pattern : List Char} {z : Char} (hz : z.isDigit = false) (hp : z ∉ pattern) :
    startsLike pattern (s ++ [z]) = startsLike pattern s := by
  induction pattern generalizing s with
  | nil => cases s <;> rfl
  | cons p ps ih =>
    rw [List.mem_cons, not_or] at hp
    cases s with
    | nil =>
      simp [startsLike, hz, hp.1]
    | cons c s => simp [startsLike, ih hp.2]

/-! ## A `Z` at the end -/

theorem takeWhile_append_zulu (s : List Char) :
    (s ++ ['Z']).takeWhile Char.isDigit = s.takeWhile Char.isDigit := by
  induction s with
  | nil => rfl
  | cons c s ih => rw [List.cons_append, List.takeWhile_cons, List.takeWhile_cons, ih]

theorem trimStart_append_zulu (s : List Char) : trimStart (s ++ ['Z']) = trimStart s ++ ['Z'] := by
  induction s with
  | nil => rfl
  | cons c s ih =>
    unfold trimStart at ih ⊢
    rw [List.cons_append, List.dropWhile_cons, List.dropWhile_cons, ih]
    split <;> rfl

theorem trim_append_zulu (s : List Char) : trim (trim s ++ ['Z']) = trim s ++ ['Z'] := by
  have hend : trimEnd (trim s ++ ['Z']) = trim s ++ ['Z'] := by
    unfold trimEnd
    rw [List.reverse_append, trimStart_eq_self, ← List.reverse_append, List.reverse_reverse]
    rintro _ ⟨⟩
    decide
  show trimEnd (trimStart (trim s ++ ['Z'])) = _
  rw [trimStart_append_zulu, trimStart_trim]
  exact hend

/-- A reader that has succeeded reads the same with a `Z` at the end, and leaves it there. -/
def LeavesZulu {α : Type} (r : Reader α) : Prop :=
  ∀ s a rest, r s = .ok (a, rest) → r (s ++ ['Z']) = .ok (a, rest ++ ['Z'])

theorem leavesZulu_number (width : Option Nat) : LeavesZulu (number width) := by
  intro s n rest h
  have hne : s ≠ [] := by
    rintro rfl
    cases h
  have hdigits : frontDigits width (s ++ ['Z']) = frontDigits width s := by
    unfold frontDigits
    rw [takeWhile_append_zulu]
  have hlength : (frontDigits width s).length ≤ s.length := by
    have hrun := (List.takeWhile_prefix (l := s) Char.isDigit).length_le
    unfold frontDigits
    cases width with
    | none => exact hrun
    | some n => exact Nat.le_trans (List.take_sublist n _).length_le hrun
  -- the digits are the same and end before the `Z`
  rw [number_eq width hne] at h
  rw [number_eq width (List.append_ne_nil_of_left_ne_nil hne _), hdigits]
  split_ifs at h ⊢ with hnone
  cases h
  rw [List.drop_append_of_le_length hlength]

theorem leavesZulu_field (low high : Nat) : LeavesZulu (field low high) := by
  intro s n rest h
  unfold field at h ⊢
  obtain ⟨⟨m, u⟩, hread, hrange⟩ := bind_eq_ok.1 h
  rw [trimStart_append_zulu, leavesZulu_number _ _ _ _ hread, read_bind]
  dsimp only at hrange ⊢
  split_ifs at hrange ⊢
  cases hrange
  rfl

theorem leavesZulu_fraction : LeavesZulu fraction := by
  intro s n rest h
  cases s with
  | nil =>
    cases h
    rfl
  | cons c s =>
    by_cases hc : c = '.'
    · subst hc
      rw [fraction] at h
      obtain ⟨⟨m, u⟩, hread, hrest⟩ := bind_eq_ok.1 h
      cases hrest
      have hlength := (List.takeWhile_prefix (l := s) Char.isDigit).length_le
      rw [List.cons_append, fraction, leavesZulu_number _ _ _ _ hread, read_bind]
      dsimp only
      rw [takeWhile_append_zulu, List.drop_append_of_le_length hlength]
    · have hnone (t : List Char) : fraction (c :: t) = .ok (0, c :: t) := by
        unfold fraction
        split
        · rename_i heq
          exact absurd (List.cons.inj heq).1 hc
        · rfl
      rw [hnone] at h
      cases h
      exact hnone _

theorem leavesZulu_signed {width : Option Nat} {f : Nat → Int} {year : Int}
    (h : (number width s).map (fun r => (f r.1, r.2)) >>= inYearRange = .ok (year, rest)) :
    (number width (s ++ ['Z'])).map (fun r => (f r.1, r.2)) >>= inYearRange =
      .ok (year, rest ++ ['Z']) := by
  obtain ⟨n, hread, rfl, hrange⟩ := signed_eq_ok.1 h
  exact signed_eq_ok.2 ⟨n, leavesZulu_number _ _ _ _ hread, rfl, hrange⟩

/-- Blanks before a year do not count. -/
theorem yearField_trimStart (s : List Char) : yearField s = yearField (trimStart s) := by
  unfold yearField
  rw [trimStart_trimStart]

theorem leavesZulu_yearField : LeavesZulu yearField := by
  intro s year rest h
  rw [yearField_trimStart] at h ⊢
  rw [trimStart_append_zulu]
  have hblank := head_trimStart s
  generalize trimStart s = t at h hblank
  -- the first character tells how a year is read, and a `Z` at the end leaves it where it is
  rcases t with _ | ⟨c, t⟩
  · cases h
  · by_cases hminus : c = '-'
    · subst hminus
      rw [yearField_minus] at h
      exact leavesZulu_signed (f := fun n => -(n : Int)) h
    · by_cases hplus : c = '+'
      · subst hplus
        exact leavesZulu_signed h
      · have htrim (t : List Char) : trimStart (c :: t) = c :: t := trimStart_eq_self hblank
        have hsign (t : List Char) : ∀ d ∈ (trimStart (c :: t)).head?, d ≠ '-' ∧ d ≠ '+' := by
          rw [htrim]
          rintro _ ⟨⟩
          exact ⟨hminus, hplus⟩
        rw [yearField_unsigned (hsign t), htrim] at h
        rw [List.cons_append, yearField_unsigned (hsign _), htrim]
        exact leavesZulu_signed h

/-! ## Full widths in the lenient form -/

/-- A field that is read at its full width has no blanks before it. -/
theorem number_of_exactly {n v : Nat} (hn : 0 < n) (h : exactly n s = .ok (v, rest)) :
    (∀ c ∈ s.head?, c.isDigit = true) ∧ trimStart s = s ∧ number (some n) s = .ok (v, rest) := by
  obtain ⟨digits, rfl, hdigits, rfl, rfl⟩ := exactly_eq_ok h
  have hne : digits ≠ [] := List.ne_nil_of_length_pos hn
  have hhead : ∀ c ∈ (digits ++ rest).head?, c.isDigit = true := by
    obtain ⟨d, digits, rfl⟩ := List.exists_cons_of_ne_nil hne
    rintro _ ⟨⟩
    exact hdigits d List.mem_cons_self
  exact ⟨hhead, trimStart_eq_self fun c hc => isBlank_of_isDigit (hhead c hc),
    number_digits hne hdigits (.inl rfl)⟩

theorem yearField_of_exactly {n : Nat} {year : Int} {left : List Char}
    (h : exactly 4 s = .ok (n, rest)) (hyear : yearField s = .ok (year, left)) :
    year = n ∧ left = rest := by
  obtain ⟨hhead, htrim, hread⟩ := number_of_exactly (by decide) h
  have hsign : ∀ c ∈ (trimStart s).head?, c ≠ '-' ∧ c ≠ '+' := by
    intro c hc
    rw [htrim] at hc
    have hdigit := hhead c hc
    constructor <;> (rintro rfl; cases hdigit)
  rw [yearField_unsigned hsign, htrim, hread, Except.map, read_bind, inYearRange] at hyear
  split_ifs at hyear
  cases hyear
  exact ⟨rfl, rfl⟩

theorem field_of_exactly {low high n m : Nat} {left : List Char} (h : exactly 2 s = .ok (n, rest))
    (hfield : field low high s = .ok (m, left)) : m = n ∧ left = rest := by
  obtain ⟨-, htrim, hread⟩ := number_of_exactly (by decide) h
  unfold field at hfield
  rw [htrim, hread, read_bind] at hfield
  dsimp only at hfield
  split_ifs at hfield
  cases hfield
  exact ⟨rfl, rfl⟩

/-! ## The two forms side by side -/

/-- The fields of a dateTime without an offset. -/
structure Fields where
  year : Int
  month : Nat
  day : Nat
  hour : Nat
  minute : Nat
  second : Nat
  nano : Nat

/-- What fields denote with an offset. -/
def Fields.dateTime (f : Fields) (offset : Int) : Except Fault DateTime := do
  let date ← dateOf (f.year, f.month, f.day)
  let time ← timeOf (f.hour, f.minute, f.second, f.nano)
  .ok ⟨date, time, offset⟩

/-- The lenient form reads fields from a text, up to what is left of it. -/
inductive Lenient (f : Fields) (left s : List Char) : Prop
  | intro {s₁ s₂ s₃ s₄ s₅ s₆ : List Char} (year : yearField s = .ok (f.year, '-' :: s₁))
      (month : field 1 12 s₁ = .ok (f.month, '-' :: s₂))
      (day : field 1 31 s₂ = .ok (f.day, 'T' :: s₃))
      (hour : field 0 23 s₃ = .ok (f.hour, ':' :: s₄))
      (minute : field 0 59 s₄ = .ok (f.minute, ':' :: s₅))
      (second : field 0 60 s₅ = .ok (f.second, s₆)) (nano : fraction s₆ = .ok (f.nano, left))

/-- The strict form reads fields from a text, up to the offset. -/
inductive Strict (f : Fields) (left s : List Char) : Prop
  | intro {year : Nat} {s₁ s₂ s₃ s₃' s₄ s₅ s₆ : List Char} (year_eq : f.year = year)
      (year : exactly 4 s = .ok (year, '-' :: s₁)) (month : exactly 2 s₁ = .ok (f.month, '-' :: s₂))
      (day : exactly 2 s₂ = .ok (f.day, s₃)) (mark : dateTimeMark s₃ = .ok ((), s₃'))
      (hour : exactly 2 s₃' = .ok (f.hour, ':' :: s₄))
      (minute : exactly 2 s₄ = .ok (f.minute, ':' :: s₅))
      (second : exactly 2 s₅ = .ok (f.second, s₆)) (nano : fraction s₆ = .ok (f.nano, left))

theorem dateFields_eq_ok {year : Int} {month day : Nat} :
    dateFields s = .ok ((year, month, day), rest) ↔ ∃ s₁ s₂, yearField s = .ok (year, '-' :: s₁) ∧
      field 1 12 s₁ = .ok (month, '-' :: s₂) ∧ field 1 31 s₂ = .ok (day, rest) := by
  unfold dateFields
  simp [bind_eq_ok, literal_eq_ok]

theorem timeFields_eq_ok {hour minute second nano : Nat} :
    timeFields s = .ok ((hour, minute, second, nano), rest) ↔ ∃ s₁ s₂ s₃,
      field 0 23 s = .ok (hour, ':' :: s₁) ∧ field 0 59 s₁ = .ok (minute, ':' :: s₂) ∧
        field 0 60 s₂ = .ok (second, s₃) ∧ fraction s₃ = .ok (nano, rest) := by
  unfold timeFields
  simp [bind_eq_ok, literal_eq_ok]

variable {f : Fields} {left : List Char} {t : DateTime}

theorem readStrict_eq_ok : readStrict s = .ok t ↔ ∃ f left offset,
    Strict f left s ∧ whole offsetField left = .ok offset ∧ f.dateTime offset = .ok t := by
  unfold readStrict Fields.dateTime
  simp only [bind_eq_ok, literal_eq_ok, Prod.exists]
  constructor
  · rintro ⟨year, _, hyear, _, _, rfl, month, _, hmonth, _, _, rfl, day, _, hday, _, _, hmark,
      hour, _, hhour, _, _, rfl, minute, _, hminute, _, _, rfl, second, _, hsecond,
      nano, left, hnano, offset, hoffset, htime⟩
    exact ⟨⟨year, month, day, hour, minute, second, nano⟩, left, offset,
      ⟨rfl, hyear, hmonth, hday, hmark, hhour, hminute, hsecond, hnano⟩, hoffset, htime⟩
  · rintro ⟨f, left, offset, ⟨heq, hyear, hmonth, hday, hmark, hhour, hminute, hsecond, hnano⟩,
      hoffset, htime⟩
    rw [heq] at htime
    exact ⟨_, _, hyear, (), _, rfl, _, _, hmonth, (), _, rfl, _, _, hday, _, _, hmark,
      _, _, hhour, (), _, rfl, _, _, hminute, (), _, rfl, _, _, hsecond, _, _, hnano, _, hoffset,
      htime⟩

/-- The fields before the end of the lenient form. -/
def lenientFields : Reader ((Int × Nat × Nat) × (Nat × Nat × Nat × Nat)) := fun s => do
  let (date, s) ← dateFields s
  let (_, s) ← literal 'T' s
  let (time, s) ← timeFields s
  .ok ((date, time), s)

theorem lenientFields_eq_ok : lenientFields s =
    .ok (((f.year, f.month, f.day), (f.hour, f.minute, f.second, f.nano)), left) ↔
      Lenient f left s := by
  unfold lenientFields
  simp only [bind_eq_ok, literal_eq_ok, Prod.exists, dateFields_eq_ok, timeFields_eq_ok]
  constructor
  · rintro ⟨_, _, _, _, ⟨_, _, hyear, hmonth, hday⟩, _, _, rfl, _, _, _, _, _,
      ⟨_, _, _, hhour, hminute, hsecond, hnano⟩, heq⟩
    cases heq
    exact ⟨hyear, hmonth, hday, hhour, hminute, hsecond, hnano⟩
  · rintro ⟨hyear, hmonth, hday, hhour, hminute, hsecond, hnano⟩
    exact ⟨_, _, _, _, ⟨_, _, hyear, hmonth, hday⟩, (), _, rfl, _, _, _, _, _,
      ⟨_, _, _, hhour, hminute, hsecond, hnano⟩, rfl⟩

/-- What the fields of the lenient form denote. -/
def utcOf (r : (Int × Nat × Nat) × (Nat × Nat × Nat × Nat)) : Except Fault DateTime := do
  let date ← dateOf r.1
  let time ← timeOf r.2
  .ok ⟨date, time, 0⟩

theorem readZoneless_eq (s : List Char) : readZoneless s = (whole lenientFields s >>= utcOf) := rfl

theorem readZoneless_eq_ok :
    readZoneless s = .ok t ↔ ∃ f, Lenient f [] s ∧ f.dateTime 0 = .ok t := by
  rw [readZoneless_eq]
  simp only [bind_eq_ok, whole_eq_ok, Prod.exists]
  constructor
  · rintro ⟨year, month, day, hour, minute, second, nano, hread, htime⟩
    exact ⟨⟨year, month, day, hour, minute, second, nano⟩, lenientFields_eq_ok.1 hread, htime⟩
  · rintro ⟨f, hread, htime⟩
    exact ⟨_, _, _, _, _, _, _, lenientFields_eq_ok.2 hread, htime⟩

/-- The lenient form stops at what is left of the text. -/
theorem readZoneless_of_left (h : Lenient f left s) (hleft : left ≠ []) :
    readZoneless s = .error .trailing := by
  obtain ⟨c, left, rfl⟩ := List.exists_cons_of_ne_nil hleft
  have hwhole : whole lenientFields s = .error .trailing := by
    unfold whole
    rw [lenientFields_eq_ok.2 h]
  rw [readZoneless_eq, hwhole]
  rfl

/-! ## The end of the text -/

theorem Lenient.zulu (h : Lenient f left s) : Lenient f (left ++ ['Z']) (s ++ ['Z']) := by
  obtain ⟨hyear, hmonth, hday, hhour, hminute, hsecond, hnano⟩ := h
  exact ⟨leavesZulu_yearField _ _ _ hyear, leavesZulu_field _ _ _ _ _ hmonth,
    leavesZulu_field _ _ _ _ _ hday, leavesZulu_field _ _ _ _ _ hhour,
    leavesZulu_field _ _ _ _ _ hminute, leavesZulu_field _ _ _ _ _ hsecond,
    leavesZulu_fraction _ _ _ hnano⟩

theorem fullWidth_zulu : FullWidth (s ++ ['Z']) ↔ FullWidth s := by
  unfold FullWidth
  rw [startsLike_append (by decide) (by decide)]

/-- A text at full width holds the fields that the strict form wants. -/
theorem fullWidth_iff : FullWidth s ↔ ∃ year month day hour minute second s₁ s₂ s₃ s₄ s₅ s₆,
    exactly 4 s = .ok (year, '-' :: s₁) ∧ exactly 2 s₁ = .ok (month, '-' :: s₂) ∧
      exactly 2 s₂ = .ok (day, 'T' :: s₃) ∧ exactly 2 s₃ = .ok (hour, ':' :: s₄) ∧
        exactly 2 s₄ = .ok (minute, ':' :: s₅) ∧ exactly 2 s₅ = .ok (second, s₆) := by
  have hmask : "0000-00-00T00:00:00".toList = List.replicate 4 '0' ++ ('-' :: (List.replicate 2 '0' ++
      ('-' :: (List.replicate 2 '0' ++ ('T' :: (List.replicate 2 '0' ++ (':' ::
        (List.replicate 2 '0' ++ (':' :: (List.replicate 2 '0' ++ [])))))))))) := by decide
  unfold FullWidth
  rw [hmask]
  simp only [startsLike_exactly, startsLike_mark (show '-' ≠ '0' by decide),
    startsLike_mark (show 'T' ≠ '0' by decide), startsLike_mark (show ':' ≠ '0' by decide)]
  constructor
  · rintro ⟨year, _, hyear, s₁, rfl, month, _, hmonth, s₂, rfl, day, _, hday, s₃, rfl,
      hour, _, hhour, s₄, rfl, minute, _, hminute, s₅, rfl, second, s₆, hsecond, -⟩
    exact ⟨year, month, day, hour, minute, second, s₁, s₂, s₃, s₄, s₅, s₆, hyear, hmonth, hday,
      hhour, hminute, hsecond⟩
  · rintro ⟨year, month, day, hour, minute, second, s₁, s₂, s₃, s₄, s₅, s₆, hyear, hmonth, hday,
      hhour, hminute, hsecond⟩
    exact ⟨year, _, hyear, s₁, rfl, month, _, hmonth, s₂, rfl, day, _, hday, s₃, rfl,
      hour, _, hhour, s₄, rfl, minute, _, hminute, s₅, rfl, second, s₆, hsecond, rfl⟩

/-- At full width the two forms read the same fields. -/
theorem Lenient.strict (h : Lenient f left s) (hwidth : FullWidth s) : Strict f left s := by
  obtain ⟨hyear, hmonth, hday, hhour, hminute, hsecond, hnano⟩ := h
  obtain ⟨year, month, day, hour, minute, second, s₁, s₂, s₃, s₄, s₅, s₆, hyear', hmonth', hday',
    hhour', hminute', hsecond'⟩ := fullWidth_iff.1 hwidth
  -- a field leaves the same to both forms, so that the next one starts at the same place
  obtain ⟨heq, hrest⟩ := yearField_of_exactly hyear' hyear
  cases hrest
  obtain ⟨rfl, hrest⟩ := field_of_exactly hmonth' hmonth
  cases hrest
  obtain ⟨rfl, hrest⟩ := field_of_exactly hday' hday
  cases hrest
  obtain ⟨rfl, hrest⟩ := field_of_exactly hhour' hhour
  cases hrest
  obtain ⟨rfl, hrest⟩ := field_of_exactly hminute' hminute
  cases hrest
  obtain ⟨rfl, rfl⟩ := field_of_exactly hsecond' hsecond
  exact ⟨heq, hyear', hmonth', hday', rfl, hhour', hminute', hsecond', hnano⟩

/-- Where both forms read a text, it has full width and they leave the same of it. -/
theorem Strict.fullWidth {f' : Fields} {left' : List Char} (h : Strict f' left' s)
    (hlenient : Lenient f left s) : FullWidth s ∧ left' = left := by
  obtain ⟨hyear, hmonth, hday, hhour, hminute, hsecond, hnano⟩ := hlenient
  obtain ⟨-, hyear', hmonth', hday', hmark, hhour', hminute', hsecond', hnano'⟩ := h
  have hrest := (yearField_of_exactly hyear' hyear).2
  cases hrest
  have hrest := (field_of_exactly hmonth' hmonth).2
  cases hrest
  -- the lenient form takes no other mark than `T`
  have hrest := (field_of_exactly hday' hday).2
  subst hrest
  cases hmark
  have hrest := (field_of_exactly hhour' hhour).2
  cases hrest
  have hrest := (field_of_exactly hminute' hminute).2
  cases hrest
  obtain rfl := (field_of_exactly hsecond' hsecond).2
  have hleft : left' = left := (Prod.mk.inj (Except.ok.inj (hnano'.symm.trans hnano))).2
  exact ⟨fullWidth_iff.2 ⟨_, _, _, _, _, _, _, _, _, _, _, _, hyear', hmonth', hday', hhour',
    hminute', hsecond'⟩, hleft⟩

/-- A text without an offset is left to the lenient form. -/
theorem readDateTime_of_readZoneless (h : readZoneless s = .ok t) : readDateTime s = .ok t := by
  unfold readDateTime
  split
  · rename_i t' hstrict
    obtain ⟨f, hlenient, -⟩ := readZoneless_eq_ok.1 h
    obtain ⟨f', left, offset, hread, hoffset, -⟩ := readStrict_eq_ok.1 hstrict
    -- the lenient form has left nothing for the offset
    obtain ⟨-, rfl⟩ := hread.fullWidth hlenient
    cases hoffset
  · exact h

theorem readDateTime_zulu (h : readZoneless s = .ok t) :
    readDateTime (s ++ ['Z']) = if FullWidth s then .ok t else .error .trailing := by
  obtain ⟨f, hlenient, htime⟩ := readZoneless_eq_ok.1 h
  have hzulu : Lenient f ['Z'] (s ++ ['Z']) := hlenient.zulu
  unfold readDateTime
  split_ifs with hwidth
  · -- what the fields leave is the `Z`, which is an offset of zero
    have hread : Strict f ['Z'] (s ++ ['Z']) := hzulu.strict (fullWidth_zulu.2 hwidth)
    rw [readStrict_eq_ok.2 ⟨f, ['Z'], 0, hread, rfl, htime⟩]
  · split
    · rename_i t' hstrict
      obtain ⟨f', left, offset, hread, -⟩ := readStrict_eq_ok.1 hstrict
      exact absurd (fullWidth_zulu.1 (hread.fullWidth hzulu).1) hwidth
    · exact readZoneless_of_left hzulu (List.cons_ne_nil _ _)

theorem offset_of_readZoneless (h : readZoneless s = .ok t) : t.offset = 0 := by
  obtain ⟨f, -, htime⟩ := readZoneless_eq_ok.1 h
  unfold Fields.dateTime at htime
  simp only [bind_eq_ok] at htime
  obtain ⟨date, -, time, -, heq⟩ := htime
  cases heq
  rfl

end Calendar

/-! ## Values -/

namespace AttributeValue

open Calendar

/-- A dateTime without a timezone is UTC. With a `Z` after it, it is read as the same if its fields
have their full width, and refused otherwise. -/
theorem dateTime_zulu_accepted {lexical : String} {t : DateTime}
    (h : readZoneless (Text.trim lexical.toList) = .ok t) :
    read .dateTime lexical = .ok (.dateTime t) ∧ t.offset = 0 ∧
      read .dateTime (String.ofList (Text.trim lexical.toList ++ ['Z'])) =
        if FullWidth (Text.trim lexical.toList) then .ok (.dateTime t)
        else .error (.calendar .trailing) := by
  refine ⟨?_, offset_of_readZoneless h, ?_⟩
  · unfold read
    dsimp only
    rw [readDateTime_of_readZoneless h]
    rfl
  · unfold read
    dsimp only
    rw [String.toList_ofList, trim_append_zulu, readDateTime_zulu h]
    split_ifs
    · rfl
    · rfl

/-- The fields have their full width; blanks around them do not matter. -/
theorem dateTime_zulu_accepted_full : read .dateTime " 2020-01-01T10:00:00.5 " =
    read .dateTime "2020-01-01T10:00:00.5Z" := by
  have hread : readZoneless (Text.trim " 2020-01-01T10:00:00.5 ".toList) = .ok
      ⟨⟨2020, 1, 1, by decide⟩, ⟨10, 0, 0, 500000000, by decide⟩, 0⟩ := by rfl
  obtain ⟨hlexical, -, hzulu⟩ := dateTime_zulu_accepted hread
  rw [if_pos (by decide)] at hzulu
  exact hlexical.trans hzulu.symm

/-- Narrow fields are read as UTC without a `Z`, and refused with it. -/
theorem dateTime_zulu_refused : ¬ ∀ (lexical : String) (t : DateTime),
    readZoneless (Text.trim lexical.toList) = .ok t →
      read .dateTime (String.ofList (Text.trim lexical.toList ++ ['Z'])) = .ok (.dateTime t) := by
  intro hclaim
  have hread : readZoneless (Text.trim "2020-1-1T1:2:3".toList) = .ok
      ⟨⟨2020, 1, 1, by decide⟩, ⟨1, 2, 3, 0, by decide⟩, 0⟩ := by rfl
  have hrefused : read .dateTime "2020-1-1T1:2:3Z" = .error (.calendar .trailing) := by rfl
  cases (hclaim _ _ hread).symm.trans hrefused

end AttributeValue

end Xacml
