/-
Written dateTimes. They are written with an offset, and only the strict form reads offsets, which
wants a year of four digits. Main statement: a dateTime that has been read is read back from its text
if its year is written with four digits; the text of any other is refused, because the lenient form
reads it up to the offset and stops there.
-/
import Xacml.Proofs.Lexical.RoundTrip
import Xacml.Proofs.Typing.Binding

namespace Xacml

namespace Calendar

open Text

variable {rest : List Char}

/-! ## Fields of full width -/

theorem exactly_digits (rest : List Char) {digits : List Char}
    (hdigits : ∀ c ∈ digits, c.isDigit = true) :
    exactly digits.length (digits ++ rest) = .ok (digitsValue digits, rest) := by
  unfold exactly
  dsimp only
  rw [List.take_left, List.drop_left, if_pos]
  simpa using hdigits

theorem exactly_padded {width n : Nat} (hwidth : 0 < width) (h : n < 10 ^ width) :
    exactly width (padded width n ++ rest) = .ok (n, rest) := by
  have hdigits : ∀ c ∈ padded width n, c.isDigit = true := fun _ => isDigit_of_mem_padded
  have hread := exactly_digits rest hdigits
  rwa [length_padded hwidth h, digitsValue_padded] at hread

/-- A sign is no digit. -/
theorem exactly_cons {n : Nat} {c : Char} (s : List Char) (hn : 0 < n) (hc : c.isDigit = false) :
    exactly n (c :: s) = .error .invalid := by
  obtain ⟨m, rfl⟩ := Nat.exists_eq_succ_of_ne_zero (Nat.ne_of_gt hn)
  unfold exactly
  dsimp only
  rw [List.take_succ_cons, if_neg]
  simp [hc]

/-! ## Offsets -/

/-- The offsets that can be written, up to a minute less than a day. -/
def OffsetInRange (offset : Int) : Prop := offset.natAbs < 1440

instance (offset : Int) : Decidable (OffsetInRange offset) := inferInstanceAs (Decidable (_ < _))

/-- An offset after its sign. -/
def offsetAfter (sign : Int) : Reader Int := fun s => do
  let (hours, s) ← exactly 2 s
  let (_, s) ← literal ':' s
  let (minutes, s) ← exactly 2 s
  if hours ≤ 23 ∧ minutes ≤ 59 then .ok (sign * (hours * 60 + minutes : Nat), s)
  else .error .outOfRange

theorem offsetInRange_zero : OffsetInRange 0 := by decide

theorem offsetField_cons (c : Char) (s : List Char) : offsetField (c :: s) =
    if c = 'Z' || c = 'z' then .ok (0, s)
    else if c = '+' then offsetAfter 1 s
    else if c = '-' || c = '\u2212' then offsetAfter (-1) s
    else .error .invalid := by
  unfold offsetField
  dsimp only
  split_ifs <;> rfl

theorem offsetAfter_padded (sign : Int) {n : Nat} (h : n < 1440) :
    offsetAfter sign (padded 2 (n / 60) ++ ':' :: padded 2 (n % 60)) = .ok (sign * n, []) := by
  have hminutes : exactly 2 (padded 2 (n % 60) ++ []) = .ok (n % 60, []) :=
    exactly_padded (by decide) (by omega)
  have htotal : n / 60 * 60 + n % 60 = n := by omega
  rw [List.append_nil] at hminutes
  unfold offsetAfter
  rw [exactly_padded (by decide) (by omega), read_bind]
  dsimp only
  rw [literal_cons, read_bind]
  dsimp only
  rw [hminutes, read_bind]
  dsimp only
  rw [if_pos ⟨by omega, by omega⟩, htotal]

theorem offsetField_offsetText {offset : Int} (h : OffsetInRange offset) :
    offsetField (offsetText offset) = .ok (offset, []) := by
  unfold OffsetInRange at h
  unfold offsetText
  split_ifs with hzero hneg
  · rw [hzero]
    rfl
  · have hoffset : -1 * (offset.natAbs : Int) = offset := by omega
    rw [List.cons_append]
    show offsetAfter (-1) _ = _
    rw [offsetAfter_padded (-1) h, hoffset]
  · have hoffset : 1 * (offset.natAbs : Int) = offset := by omega
    rw [List.cons_append]
    show offsetAfter 1 _ = _
    rw [offsetAfter_padded 1 h, hoffset]

/-- Neither a digit nor a point stands in front of an offset. -/
theorem head?_offsetText (offset : Int) :
    NoDigitAhead (offsetText offset) ∧ (offsetText offset).head? ≠ some '.' ∧
      offsetText offset ≠ [] := by
  unfold offsetText
  split_ifs <;> exact ⟨noDigitAhead_cons rfl, by simp, by simp⟩

theorem of_bind_eq_ok {α β : Type} {x : Except Fault α} {f : α → Except Fault β} {P : β → Prop}
    (h : ∀ a, x = .ok a → ∀ b, f a = .ok b → P b) : ∀ b, (x >>= f) = .ok b → P b := by
  intro b hb
  obtain ⟨a, ha, hb⟩ := bind_eq_ok.1 hb
  exact h a ha b hb

theorem inRange_of_offsetAfter {sign : Int} (hsign : sign = 1 ∨ sign = -1) (s : List Char) :
    ∀ r, offsetAfter sign s = .ok r → OffsetInRange r.1 := by
  unfold offsetAfter
  refine of_bind_eq_ok fun ⟨hours, s⟩ _ => of_bind_eq_ok fun ⟨_, s⟩ _ =>
    of_bind_eq_ok fun ⟨minutes, s⟩ _ r hr => ?_
  dsimp only at hr
  split_ifs at hr with hbounds
  cases hr
  unfold OffsetInRange
  rcases hsign with rfl | rfl <;> simp only [] <;> omega

/-- No offset that is read is out of range. -/
theorem inRange_of_offsetField (s : List Char) :
    ∀ r, offsetField s = .ok r → OffsetInRange r.1 := by
  intro r hr
  cases s with
  | nil => cases hr
  | cons c s =>
    rw [offsetField_cons] at hr
    split_ifs at hr
    · cases hr
      exact offsetInRange_zero
    · exact inRange_of_offsetAfter (.inl rfl) s r hr
    · exact inRange_of_offsetAfter (.inr rfl) s r hr

theorem whole_eq_ok {α : Type} {r : Reader α} {s : List Char} {a : α} :
    whole r s = .ok a ↔ r s = .ok (a, []) := by
  unfold whole
  split <;> simp_all

theorem inRange_of_whole {s : List Char} {offset : Int} (h : whole offsetField s = .ok offset) :
    OffsetInRange offset := inRange_of_offsetField s _ (whole_eq_ok.1 h)

/-! ## The two forms -/

theorem dateTimeMark_cons : dateTimeMark ('T' :: rest) = .ok ((), rest) := rfl

/-- The strict form reads a dateTime whose year is written with four digits. -/
theorem readStrict_chars {t : DateTime} (hoffset : OffsetInRange t.offset)
    (hyear : 0 ≤ t.date.year ∧ t.date.year ≤ 9999) : readStrict t.chars = .ok t := by
  obtain ⟨-, hmonth, hmonth', hday, hday'⟩ := t.date.valid
  obtain ⟨hhour, hminute, hsecond, hnano, -⟩ := t.time.valid
  obtain ⟨hdigit, hpoint, -⟩ := head?_offsetText t.offset
  have hdays := t.date.day_le
  have hchars : t.chars = padded 4 t.date.year.toNat ++ ('-' :: (padded 2 t.date.month ++
      ('-' :: (padded 2 t.date.day ++ ('T' :: (padded 2 t.time.hour ++ (':' ::
        (padded 2 t.time.minute ++ (':' ::
          (padded 2 (t.time.second + t.time.nano / 1000000000) ++
            (fractionText (t.time.nano % 1000000000) ++ offsetText t.offset))))))))))) := by
    unfold DateTime.chars Date.chars Time.chars yearText
    rw [if_pos hyear]
    simp only [List.append_assoc, List.cons_append]
  have hdate : dateOf (t.date.year.toNat, t.date.month, t.date.day) = .ok t.date := by
    rw [Int.toNat_of_nonneg hyear.1]
    exact dateOf_fields t.date
  unfold readStrict
  rw [hchars, exactly_padded (by decide) (by omega), read_bind]
  dsimp only
  rw [literal_cons, read_bind]
  dsimp only
  rw [exactly_padded (by decide) (by omega), read_bind]
  dsimp only
  rw [literal_cons, read_bind]
  dsimp only
  rw [exactly_padded (by decide) (by omega), read_bind]
  dsimp only
  rw [dateTimeMark_cons, read_bind]
  dsimp only
  rw [exactly_padded (by decide) (by omega), read_bind]
  dsimp only
  rw [literal_cons, read_bind]
  dsimp only
  rw [exactly_padded (by decide) (by omega), read_bind]
  dsimp only
  rw [literal_cons, read_bind]
  dsimp only
  rw [exactly_padded (by decide) (by omega), read_bind]
  dsimp only
  rw [fraction_fractionText (by omega) hdigit hpoint, read_bind]
  dsimp only
  rw [whole, offsetField_offsetText hoffset]
  dsimp only
  rw [read_bind, hdate, read_bind, timeOf_fields, read_bind]

/-- The strict form refuses a year with a sign. -/
theorem readStrict_signed {t : DateTime} (hyear : ¬ (0 ≤ t.date.year ∧ t.date.year ≤ 9999)) :
    readStrict t.chars = .error .invalid := by
  have hchars : ∃ c s, t.chars = c :: s ∧ c.isDigit = false := by
    unfold DateTime.chars Date.chars yearText
    rw [if_neg hyear]
    split_ifs
    · exact ⟨_, _, rfl, rfl⟩
    · exact ⟨_, _, rfl, rfl⟩
  obtain ⟨c, s, hchars, hc⟩ := hchars
  unfold readStrict
  rw [hchars, exactly_cons s (by decide) hc]
  rfl

/-- The lenient form reads everything but the offset. -/
theorem readZoneless_chars (t : DateTime) : readZoneless t.chars = .error .trailing := by
  obtain ⟨hdigit, hpoint, hne⟩ := head?_offsetText t.offset
  have hchars : t.chars = t.date.chars ++ ('T' :: (t.time.chars ++ offsetText t.offset)) := by
    unfold DateTime.chars
    simp only [List.append_assoc, List.cons_append]
  unfold readZoneless whole
  dsimp only
  rw [hchars, dateFields_chars, read_bind]
  dsimp only
  rw [literal_cons, read_bind]
  dsimp only
  rw [timeFields_chars t.time hdigit hpoint, read_bind]
  cases h : offsetText t.offset with
  | nil => exact absurd h hne
  | cons c s => rfl

/-- A dateTime is read back from its text if its year is written with four digits. -/
theorem readDateTime_chars {t : DateTime} (h : OffsetInRange t.offset) :
    readDateTime t.chars =
      if 0 ≤ t.date.year ∧ t.date.year ≤ 9999 then .ok t else .error .trailing := by
  unfold readDateTime
  split_ifs with hyear
  · rw [readStrict_chars h hyear]
  · rw [readStrict_signed hyear]
    exact readZoneless_chars t

theorem inRange_of_readStrict (s : List Char) :
    ∀ t, readStrict s = .ok t → OffsetInRange t.offset := by
  unfold readStrict
  -- date and time are read first
  iterate 12 refine of_bind_eq_ok fun ⟨_, _⟩ _ => ?_
  refine of_bind_eq_ok fun offset hoffset => of_bind_eq_ok fun date _ =>
    of_bind_eq_ok fun time _ t ht => ?_
  cases ht
  exact inRange_of_whole hoffset

theorem inRange_of_readZoneless (s : List Char) :
    ∀ t, readZoneless s = .ok t → OffsetInRange t.offset := by
  unfold readZoneless
  refine of_bind_eq_ok fun ⟨_, _⟩ _ => of_bind_eq_ok fun date _ => of_bind_eq_ok fun time _ t ht => ?_
  cases ht
  exact offsetInRange_zero

theorem inRange_of_readDateTime {s : List Char} {t : DateTime} (h : readDateTime s = .ok t) :
    OffsetInRange t.offset := by
  unfold readDateTime at h
  split at h
  · rename_i t' hstrict
    cases h
    exact inRange_of_readStrict s t hstrict
  · exact inRange_of_readZoneless s t h

end Calendar

/-! ## Values -/

namespace AttributeValue

open Calendar

theorem isMark_of_mem_offsetText {offset : Int} {c : Char} (h : c ∈ offsetText offset) :
    c.isDigit = true ∨ IsMark c ∨ c = 'Z' := by
  unfold offsetText at h
  split_ifs at h
  · exact .inr (.inr (List.mem_singleton.1 h))
  all_goals
    simp only [List.cons_append, List.mem_cons, List.mem_append] at h
    rcases h with rfl | h | rfl | h
    · exact .inr (.inl (by simp [IsMark]))
    · exact .inl (Text.isDigit_of_mem_padded h)
    · exact .inr (.inl (by simp [IsMark]))
    · exact .inl (Text.isDigit_of_mem_padded h)

theorem trim_dateTime (t : DateTime) : Text.trim t.text.toList = t.chars := by
  refine trim_ofList fun c hc => ?_
  unfold DateTime.chars at hc
  simp only [List.mem_append, List.mem_cons] at hc
  have hmark : c.isDigit = true ∨ IsMark c ∨ c = 'Z' ∨ c = 'T' := by
    rcases hc with (hc | rfl | hc) | hc
    · exact (Date.isMark_of_mem_chars hc).imp_right .inl
    · exact .inr (.inr (.inr rfl))
    · exact (Time.isMark_of_mem_chars hc).imp_right .inl
    · exact (isMark_of_mem_offsetText hc).imp_right fun h => h.imp_right .inl
  rcases hmark with hc | hc | rfl | rfl
  · exact Text.isBlank_of_isDigit hc
  · exact isBlank_of_isMark hc
  · decide
  · decide

/-- Its year is written with four digits and without a sign. -/
def FourDigitYear (t : DateTime) : Prop := 0 ≤ t.date.year ∧ t.date.year ≤ 9999

instance (t : DateTime) : Decidable (FourDigitYear t) := inferInstanceAs (Decidable (_ ∧ _))

theorem dateTime_of_read {lexical : String} {v : AttributeValue}
    (h : read .dateTime lexical = .ok v) : ∃ t, v = .dateTime t ∧ OffsetInRange t.offset := by
  unfold read at h
  dsimp only at h
  cases hr : readDateTime (Text.trim lexical.toList) with
  | error fault =>
    rw [hr] at h
    cases h
  | ok t =>
    rw [hr] at h
    cases h
    exact ⟨t, rfl, inRange_of_readDateTime hr⟩

theorem read_dateTime_text {t : DateTime} (h : OffsetInRange t.offset) :
    read .dateTime t.text =
      if FourDigitYear t then .ok (.dateTime t) else .error (.calendar .trailing) := by
  unfold read
  dsimp only
  rw [trim_dateTime, readDateTime_chars h]
  by_cases hyear : FourDigitYear t
  · rw [if_pos hyear, if_pos (show 0 ≤ t.date.year ∧ t.date.year ≤ 9999 from hyear)]
    rfl
  · rw [if_neg hyear, if_neg (show ¬ (0 ≤ t.date.year ∧ t.date.year ≤ 9999) from hyear)]
    rfl

/-- A dateTime that has been read is read back from its text, and is the same after a conversion to a
string and back, if its year has four digits. The text of any other is not in the lexical space, and
the conversion back fails. -/
theorem dateTime_text_accepted {lexical : String} {v : AttributeValue}
    (h : read .dateTime lexical = .ok v) : ∃ t, v = .dateTime t ∧
      (FourDigitYear t → read .dateTime v.text = .ok v ∧
        ∀ (e : Expr) (ctx : Option Context) (c : Pattern.Cache),
          (e.eval ctx c).result = .ok (.single v) →
            ((e.throughString .dateTime).eval ctx c).result = .ok (.single v)) ∧
      (¬ FourDigitYear t → read .dateTime v.text = .error (.calendar .trailing) ∧
        ∀ (e : Expr) (ctx : Option Context) (c : Pattern.Cache),
          (e.eval ctx c).result = .ok (.single v) →
            ((e.throughString .dateTime).eval ctx c).result = .error (.wrap
              (.body (Library.fromString .dateTime).id)
                (.of (.literal .dateTime v.text (.calendar .trailing))))) := by
  obtain ⟨t, rfl, hoffset⟩ := dateTime_of_read h
  have hread : read .dateTime (text (.dateTime t)) = _ := read_dateTime_text hoffset
  refine ⟨t, rfl, fun hyear => ?_, fun hyear => ?_⟩
  · rw [if_pos hyear] at hread
    refine ⟨hread, fun e ctx c he => ?_⟩
    rw [Expr.eval_throughString he, readFound, hread]
    rfl
  · rw [if_neg hyear] at hread
    refine ⟨hread, fun e ctx c he => ?_⟩
    rw [Expr.eval_throughString he, readFound, hread]
    rfl

/-- The last dateTime with a year of four digits, written for a clock behind UTC. -/
theorem dateTime_text_accepted_last : ∃ v, read .dateTime "9999-12-31T23:59:60.5-14:00" = .ok v ∧
    v.text = "9999-12-31T23:59:60.500-14:00" ∧ read .dateTime v.text = .ok v := by
  have hread : read .dateTime "9999-12-31T23:59:60.5-14:00" = .ok (.dateTime
      ⟨⟨9999, 12, 31, by decide⟩, ⟨23, 59, 59, 1500000000, by decide⟩, -840⟩) := by rfl
  obtain ⟨u, hu, hfour, -⟩ := dateTime_text_accepted hread
  have hyear : FourDigitYear u := by
    rw [← AttributeValue.dateTime.inj hu]
    decide
  exact ⟨_, hread, by rfl, (hfour hyear).1⟩

/-- The first year that has no four digits is read without an offset, written with one, and not read
again. -/
theorem dateTime_text_refused : ¬ ∀ (lexical : String) (v : AttributeValue),
    read .dateTime lexical = .ok v → ∃ w, read .dateTime v.text = .ok w ∧ w.same v = true := by
  intro hclaim
  let t : DateTime := ⟨⟨10000, 1, 1, by decide⟩, ⟨0, 0, 0, 0, by decide⟩, 0⟩
  have hread : read .dateTime "+10000-01-01T00:00:00" = .ok (.dateTime t) := by rfl
  obtain ⟨w, hw, -⟩ := hclaim _ _ hread
  have hrefused : read .dateTime (text (.dateTime t)) = .error (.calendar .trailing) :=
    (read_dateTime_text (by decide)).trans (if_neg (by decide))
  rw [hrefused] at hw
  cases hw

end AttributeValue

end Xacml
