/-
Timezones after dates and times. A timezone is a `Z`, or a sign, two digits, a colon and two digits.
What is cut from a text is more and less than that: of an offset only the sign and the colon are looked
at, the other four bytes may be anything; and an offset is cut only if at least eight bytes stand before
it. Main statement: a text is a date or a time just if it is a bare one with such an end, so that a
timezone is dropped after every bare form that is not too short for it.
-/
import Xacml.Proofs.Lexical.Zoneless
import Mathlib.Data.List.Basic
import Mathlib.Data.List.TakeWhile

namespace Xacml

namespace Calendar

open Text

/-! ## Ends -/

/-- A timezone, or none. -/
inductive Zone : List Char → Prop
  | none : Zone []
  | zulu : Zone ['Z']
  | offset {sign : Char} {hours minutes : List Char} : sign = '+' ∨ sign = '-' →
      hours.length = 2 → (∀ c ∈ hours, c.isDigit = true) →
      minutes.length = 2 → (∀ c ∈ minutes, c.isDigit = true) → Zone (sign :: hours ++ ':' :: minutes)

/-- What passes for an offset: a sign, two bytes, a colon and two bytes. -/
inductive OffsetLike : List Char → Prop
  | intro {sign : Char} {hours minutes : List Char} : sign = '+' ∨ sign = '-' →
      byteLength hours = 2 → byteLength minutes = 2 → OffsetLike (sign :: hours ++ ':' :: minutes)

/-- What may be cut from the end of a text, after the given front. -/
inductive Cut (front : List Char) : List Char → Prop
  | none : Cut front []
  | zulu : Cut front ['Z']
  | offset {z : List Char} :
      OffsetLike z → z.getLast? ≠ some 'Z' → 8 ≤ byteLength front → Cut front z

variable {s front back z : List Char}

theorem byteLength_eq_zero : byteLength s = 0 ↔ s = [] := by
  cases s with
  | nil => exact ⟨fun _ => rfl, fun _ => rfl⟩
  | cons c s =>
    have := c.utf8Size_pos
    rw [byteLength_cons]
    exact ⟨fun h => by omega, by rintro ⟨⟩⟩

theorem OffsetLike.byteLength (h : OffsetLike z) : byteLength z = 6 := by
  obtain ⟨hsign, hhours, hminutes⟩ := h
  have hsize : ∀ c : Char, c = '+' ∨ c = '-' ∨ c = ':' → c.utf8Size = 1 := by
    rintro c (rfl | rfl | rfl) <;> rfl
  rw [byteLength_append, byteLength_cons, byteLength_cons, hhours, hminutes,
    hsize _ (hsign.imp_right .inl), hsize ':' (.inr (.inr rfl))]

/-- An offset has a sign and a colon. -/
theorem OffsetLike.marks (h : OffsetLike z) : ':' ∈ z ∧ ('+' ∈ z ∨ '-' ∈ z) := by
  obtain ⟨hsign, -⟩ := h
  refine ⟨by simp, ?_⟩
  rcases hsign with rfl | rfl <;> simp

/-- Only the first and the fourth of the last six bytes are looked at. -/
theorem offsetLike_iff (hlength : byteLength back = 6) :
    OffsetLike back ↔ ((utf8 back)[0]? = some '+'.toUInt8 ∨ (utf8 back)[0]? = some '-'.toUInt8) ∧
      (utf8 back)[3]? = some ':'.toUInt8 := by
  rw [utf8_getElem?_eq_some (by decide), utf8_getElem?_eq_some (by decide),
    utf8_getElem?_eq_some (by decide)]
  constructor
  · rintro ⟨hsign, hhours, -⟩
    refine ⟨?_, _, _, rfl, ?_⟩
    · exact hsign.imp (fun h => ⟨[], _, by rw [h]; rfl, rfl⟩) fun h => ⟨[], _, by rw [h]; rfl, rfl⟩
    · rcases hsign with rfl | rfl <;> rw [byteLength_cons, hhours] <;> rfl
  · rintro ⟨hsign, hours, minutes, rfl, hhours⟩
    have hfirst : ∃ sign rest, (sign = '+' ∨ sign = '-') ∧ hours ++ ':' :: minutes = sign :: rest := by
      rcases hsign with ⟨front, rest, heq, hfront⟩ | ⟨front, rest, heq, hfront⟩
      all_goals rw [byteLength_eq_zero.1 hfront] at heq
      · exact ⟨'+', rest, .inl rfl, heq⟩
      · exact ⟨'-', rest, .inr rfl, heq⟩
    obtain ⟨sign, rest, hmark, heq⟩ := hfirst
    have hsize : sign.utf8Size = 1 := by rcases hmark with rfl | rfl <;> rfl
    have hcolon : ':'.utf8Size = 1 := rfl
    -- the colon is not the first character, which is the sign
    obtain _ | ⟨c, hours⟩ := hours
    · cases hhours
    cases heq
    rw [byteLength_append, hhours, byteLength_cons] at hlength
    rw [byteLength_cons] at hhours
    exact ⟨hmark, by omega, by omega⟩

theorem Zone.offsetLike (h : Zone z) (hlong : 6 ≤ z.length) :
    OffsetLike z ∧ z.getLast? ≠ some 'Z' := by
  cases h with
  | none => exact absurd hlong (by decide)
  | zulu => exact absurd hlong (by decide)
  | offset hsign hhours hhour hminutes hminute =>
    have hbytes : ∀ digits : List Char, digits.length = 2 → (∀ c ∈ digits, c.isDigit = true) →
        byteLength digits = 2 := fun digits hlength hdigits =>
      (byteLength_of_ascii fun c hc => ascii_of_isDigit (hdigits c hc)).trans hlength
    refine ⟨⟨hsign, hbytes _ hhours hhour, hbytes _ hminutes hminute⟩, fun hlast => ?_⟩
    have hmem := List.mem_of_getLast? hlast
    simp only [List.cons_append, List.mem_cons, List.mem_append] at hmem
    rcases hmem with rfl | hmem | hmem | hmem
    · exact absurd hsign (by decide)
    · exact absurd (hhour _ hmem) (by decide)
    · cases hmem
    · exact absurd (hminute _ hmem) (by decide)

/-! ## Cutting -/

theorem withoutZone_zulu (s : List Char) : withoutZone (s ++ ['Z']) = s := by
  unfold withoutZone
  rw [List.reverse_append]
  exact List.reverse_reverse s

theorem reverse_ne_zulu (h : s.getLast? ≠ some 'Z') : ∀ rest, s.reverse ≠ 'Z' :: rest := by
  intro rest hrest
  rw [List.getLast?_eq_head?_reverse, hrest] at h
  exact h rfl

/-- The last six bytes are cut if they pass for an offset and stand far enough in. -/
theorem withoutZone_split (front : List Char) (hlength : byteLength back = 6)
    (hlast : back.getLast? ≠ some 'Z') :
    (OffsetLike back ∧ 8 ≤ byteLength front → withoutZone (front ++ back) = front) ∧
      (¬ (OffsetLike back ∧ 8 ≤ byteLength front) → withoutZone (front ++ back) = front ++ back) := by
  have hne : back ≠ [] := by rintro rfl; cases hlength
  have hend : (front ++ back).getLast? ≠ some 'Z' := by
    rwa [List.getLast?_append_of_ne_nil _ hne]
  have hat : splitAtByte? (byteLength (front ++ back) - 6) (front ++ back) = some (front, back) := by
    rw [byteLength_append, hlength, Nat.add_sub_cancel]
    exact splitAtByte?_eq_some.2 ⟨rfl, rfl⟩
  rw [offsetLike_iff hlength]
  unfold withoutZone
  split
  · rename_i rest hrest
    exact absurd hrest (reverse_ne_zulu hend rest)
  · -- there are six bytes, and they are `back`
    dsimp only
    rw [byteLength_append, hlength, if_neg (by omega)]
    rw [byteLength_append, hlength] at hat
    rw [hat]
    simp only [Bool.and_eq_true, Bool.or_eq_true, decide_eq_true_eq]
    exact ⟨fun h => if_pos h, fun h => if_neg h⟩

theorem withoutZone_of_no_split (hlast : s.getLast? ≠ some 'Z')
    (h : ∀ front back, s = front ++ back → byteLength back ≠ 6) : withoutZone s = s := by
  unfold withoutZone
  split
  · rename_i rest hrest
    exact absurd hrest (reverse_ne_zulu hlast rest)
  · dsimp only
    split_ifs with hshort
    · rfl
    · split
      · rfl
      · rename_i front back hat
        obtain ⟨rfl, hfront⟩ := splitAtByte?_eq_some.1 hat
        rw [byteLength_append] at hfront hshort
        exact absurd (by omega) (h front back rfl)

/-- Only an end is cut. -/
theorem exists_cut (s : List Char) : ∃ z, s = withoutZone s ++ z ∧ Cut (withoutZone s) z := by
  by_cases hlast : s.getLast? = some 'Z'
  · obtain ⟨front, rfl⟩ := List.getLast?_eq_some_iff.1 hlast
    rw [withoutZone_zulu]
    exact ⟨['Z'], rfl, .zulu⟩
  by_cases hsplit : ∃ front back, s = front ++ back ∧ byteLength back = 6
  · obtain ⟨front, back, rfl, hlength⟩ := hsplit
    have hne : back ≠ [] := by rintro rfl; cases hlength
    rw [List.getLast?_append_of_ne_nil _ hne] at hlast
    obtain ⟨hcut, hkept⟩ := withoutZone_split front hlength hlast
    by_cases h : OffsetLike back ∧ 8 ≤ byteLength front
    · rw [hcut h]
      exact ⟨back, rfl, .offset h.1 hlast h.2⟩
    · rw [hkept h]
      exact ⟨[], (List.append_nil _).symm, .none⟩
  · rw [withoutZone_of_no_split hlast fun front back h hlength => hsplit ⟨front, back, h, hlength⟩]
    exact ⟨[], (List.append_nil _).symm, .none⟩

/-! ## What bare dates and times are made of -/

/-- What a reader takes from the front of a text has only characters of a kind. -/
def Takes {α : Type} (P : Char → Prop) (r : Reader α) : Prop :=
  ∀ s a rest, r s = .ok (a, rest) → ∃ front, s = front ++ rest ∧ ∀ c ∈ front, P c

/-- A digit, or a blank before it. -/
def InField (c : Char) : Prop := c.isDigit = true ∨ isBlank c = true

instance (c : Char) : Decidable (InField c) := inferInstanceAs (Decidable (_ ∨ _))

theorem takes_number (width : Option Nat) : Takes (fun c => c.isDigit = true) (number width) := by
  intro s n rest h
  have hne : s ≠ [] := by
    rintro rfl
    cases h
  have hrun : frontDigits width s <+: s.takeWhile Char.isDigit := by
    unfold frontDigits
    cases width with
    | none => exact List.prefix_rfl
    | some n => exact List.take_prefix n _
  have hprefix : frontDigits width s <+: s := hrun.trans (List.takeWhile_prefix _)
  rw [number_eq width hne] at h
  split_ifs at h
  cases h
  exact ⟨_, (List.prefix_iff_eq_append.1 hprefix).symm,
    fun c hc => List.mem_takeWhile_imp (hrun.subset hc)⟩

/-- Blanks are taken with what follows them. -/
theorem takes_afterBlanks {P : Char → Prop} {rest : List Char} (h : trimStart s = front ++ rest)
    (hfront : ∀ c ∈ front, P c) :
    ∃ front, s = front ++ rest ∧ ∀ c ∈ front, P c ∨ isBlank c = true := by
  refine ⟨s.takeWhile isBlank ++ front, ?_, fun c hc => ?_⟩
  · rw [List.append_assoc, ← h, takeWhile_append_trimStart]
  · rcases List.mem_append.1 hc with hc | hc
    · exact .inr (List.mem_takeWhile_imp hc)
    · exact .inl (hfront c hc)

theorem takes_field (low high : Nat) : Takes InField (field low high) := by
  intro s n rest h
  unfold field at h
  obtain ⟨⟨m, u⟩, hread, hrange⟩ := bind_eq_ok.1 h
  dsimp only at hrange
  split_ifs at hrange
  cases hrange
  obtain ⟨digits, hsplit, hdigits⟩ := takes_number _ _ _ _ hread
  exact takes_afterBlanks hsplit hdigits

/-- The digits of a year, whatever their sign. -/
theorem takes_signed {width : Option Nat} {f : Nat → Int} {year : Int} {rest : List Char}
    (h : (number width s).map (fun r => (f r.1, r.2)) >>= inYearRange = .ok (year, rest)) :
    ∃ digits, s = digits ++ rest ∧ ∀ c ∈ digits, c.isDigit = true := by
  obtain ⟨n, hread, -, -⟩ := signed_eq_ok.1 h
  exact takes_number width s n rest hread

theorem takes_yearField : Takes (fun c => InField c ∨ c = '-' ∨ c = '+') yearField := by
  intro s year rest h
  have hfront : ∃ front, trimStart s = front ++ rest ∧
      ∀ c ∈ front, c.isDigit = true ∨ c = '-' ∨ c = '+' := by
    rw [yearField_trimStart] at h
    by_cases hsign : ∃ sign t, trimStart s = sign :: t ∧ (sign = '-' ∨ sign = '+')
    · obtain ⟨sign, t, ht, hsign⟩ := hsign
      rw [ht] at h ⊢
      have htaken : ∃ digits, t = digits ++ rest ∧ ∀ c ∈ digits, c.isDigit = true := by
        rcases hsign with rfl | rfl
        · exact takes_signed (f := fun n => -(n : Int)) h
        · exact takes_signed (f := fun n => (n : Int)) h
      obtain ⟨digits, rfl, hdigits⟩ := htaken
      exact ⟨sign :: digits, rfl,
        List.forall_mem_cons.2 ⟨.inr hsign, fun c hc => .inl (hdigits c hc)⟩⟩
    · have hunsigned : ∀ c ∈ (trimStart (trimStart s)).head?, c ≠ '-' ∧ c ≠ '+' := by
        intro c hc
        rw [trimStart_trimStart] at hc
        obtain ⟨t, ht⟩ := List.head?_eq_some_iff.1 hc
        exact not_or.1 fun h => hsign ⟨c, t, ht, h⟩
      rw [yearField_unsigned hunsigned, trimStart_trimStart] at h
      obtain ⟨digits, hsplit, hdigits⟩ := takes_signed (f := fun n => (n : Int)) h
      exact ⟨digits, hsplit, fun c hc => .inl (hdigits c hc)⟩
  obtain ⟨front, hfront, hall⟩ := hfront
  obtain ⟨front, hsplit, hall⟩ := takes_afterBlanks hfront hall
  exact ⟨front, hsplit, fun c hc => or_right_comm.1 (hall c hc)⟩

theorem takes_fraction : Takes (fun c => InField c ∨ c = '.') fraction := by
  intro s nano rest h
  unfold fraction at h
  split at h
  · rename_i t
    obtain ⟨⟨m, u⟩, hread, hrest⟩ := bind_eq_ok.1 h
    cases hrest
    refine ⟨'.' :: t.takeWhile Char.isDigit, ?_, List.forall_mem_cons.2 ⟨.inr rfl, fun c hc => ?_⟩⟩
    · exact congrArg ('.' :: ·) (List.prefix_iff_eq_append.1 (List.takeWhile_prefix _)).symm
    · exact .inl (.inl (List.mem_takeWhile_imp hc))
  · cases h
    exact ⟨[], rfl, List.forall_mem_nil _⟩

theorem takes_dateFields : Takes (fun c => InField c ∨ c = '-' ∨ c = '+') dateFields := by
  rintro s ⟨year, month, day⟩ rest h
  obtain ⟨s₁, s₂, hyear, hmonth, hday⟩ := dateFields_eq_ok.1 h
  obtain ⟨years, rfl, hyears⟩ := takes_yearField _ _ _ hyear
  obtain ⟨months, rfl, hmonths⟩ := takes_field _ _ _ _ _ hmonth
  obtain ⟨days, rfl, hdays⟩ := takes_field _ _ _ _ _ hday
  refine ⟨years ++ '-' :: (months ++ '-' :: days), by simp, fun c hc => ?_⟩
  simp only [List.mem_append, List.mem_cons] at hc
  rcases hc with hc | rfl | hc | rfl | hc
  · exact hyears c hc
  · exact .inr (.inl rfl)
  · exact .inl (hmonths c hc)
  · exact .inr (.inl rfl)
  · exact .inl (hdays c hc)

theorem takes_timeFields : Takes (fun c => InField c ∨ c = ':' ∨ c = '.') timeFields := by
  rintro s ⟨hour, minute, second, nano⟩ rest h
  obtain ⟨s₁, s₂, s₃, hhour, hminute, hsecond, hnano⟩ := timeFields_eq_ok.1 h
  obtain ⟨hours, rfl, hhours⟩ := takes_field _ _ _ _ _ hhour
  obtain ⟨minutes, rfl, hminutes⟩ := takes_field _ _ _ _ _ hminute
  obtain ⟨seconds, rfl, hseconds⟩ := takes_field _ _ _ _ _ hsecond
  obtain ⟨nanos, rfl, hnanos⟩ := takes_fraction _ _ _ hnano
  refine ⟨hours ++ ':' :: (minutes ++ ':' :: (seconds ++ nanos)), by simp, fun c hc => ?_⟩
  simp only [List.mem_append, List.mem_cons] at hc
  rcases hc with hc | rfl | hc | rfl | hc | hc
  · exact .inl (hhours c hc)
  · exact .inr (.inl rfl)
  · exact .inl (hminutes c hc)
  · exact .inr (.inl rfl)
  · exact .inl (hseconds c hc)
  · exact (hnanos c hc).imp_right .inr

/-- What a reader accepts as a whole is what it takes. -/
theorem Takes.whole {α : Type} {P : Char → Prop} {r : Reader α} (hr : Takes P r) {a : α}
    (h : whole r s = .ok a) : ∀ c ∈ s, P c := by
  obtain ⟨front, rfl, hall⟩ := hr _ _ _ (whole_eq_ok.1 h)
  rwa [List.append_nil]

end Calendar

/-! ## Values -/

namespace AttributeValue

open Calendar Text

/-- A date or a time without a timezone, and its value. -/
inductive Bare : AttributeType → List Char → AttributeValue → Prop
  | date {s : List Char} {d : Date} : readBareDate s = .ok d → Bare .date s (.date d)
  | time {s : List Char} {t : Time} : readBareTime s = .ok t → Bare .time s (.time t)

variable {t : AttributeType} {s z : List Char} {v : AttributeValue}

/-- A bare date has no colon and a bare time has no sign, and neither has a `Z`. -/
theorem Bare.marks (h : Bare t s v) : 'Z' ∉ s ∧ (':' ∉ s ∨ '+' ∉ s ∧ '-' ∉ s) := by
  cases h with
  | date hread =>
    obtain ⟨fields, hfields, -⟩ := bind_eq_ok.1 hread
    have hall := takes_dateFields.whole hfields
    exact ⟨fun hc => absurd (hall _ hc) (by decide), .inl fun hc => absurd (hall _ hc) (by decide)⟩
  | time hread =>
    obtain ⟨fields, hfields, -⟩ := bind_eq_ok.1 hread
    have hall := takes_timeFields.whole hfields
    exact ⟨fun hc => absurd (hall _ hc) (by decide),
      .inr ⟨fun hc => absurd (hall _ hc) (by decide), fun hc => absurd (hall _ hc) (by decide)⟩⟩

/-- Nothing is cut from a bare form. -/
theorem Bare.withoutZone (h : Bare t s v) : withoutZone s = s := withoutZone_eq_self h.marks.1 h.marks.2

/-- No bare form has an offset in it. -/
theorem Bare.not_offsetLike (h : Bare t (s ++ z) v) : ¬ OffsetLike z := by
  intro hz
  obtain ⟨hcolon, hsign⟩ := hz.marks
  rcases h.marks.2 with hnone | ⟨hplus, hminus⟩
  · exact hnone (List.mem_append_right s hcolon)
  · exact hsign.elim (fun h => hplus (List.mem_append_right s h)) fun h => hminus (List.mem_append_right s h)

theorem map_calendar_eq_ok {α : Type} {x : Except Fault α} {f : α → AttributeValue} :
    (x.map f).mapError LexicalFault.calendar = .ok v ↔ ∃ a, x = .ok a ∧ f a = v := by
  cases x <;> simp [Except.map, Except.mapError]

/-- A date or a time is read as the bare form that is left when its end is cut. -/
theorem read_eq_ok_iff_bare (ht : t = .date ∨ t = .time) (lexical : String) :
    read t lexical = .ok v ↔ Bare t (Calendar.withoutZone (trim lexical.toList)) v := by
  unfold read
  rcases ht with rfl | rfl
  · refine map_calendar_eq_ok.trans ⟨?_, ?_⟩
    · rintro ⟨d, hread, rfl⟩
      exact .date hread
    · rintro ⟨hread⟩
      exact ⟨_, hread, rfl⟩
  · refine map_calendar_eq_ok.trans ⟨?_, ?_⟩
    · rintro ⟨time, hread, rfl⟩
      exact .time hread
    · rintro ⟨⟩
      rename_i hread
      exact ⟨_, hread, rfl⟩

/-- An offset after a bare form is cut if the form has eight bytes, and kept otherwise. -/
theorem Bare.withoutZone_offset (h : Bare t s v) (hz : OffsetLike z) (hlast : z.getLast? ≠ some 'Z') :
    Bare t (Calendar.withoutZone (s ++ z)) v ↔ 8 ≤ byteLength s := by
  obtain ⟨hcut, hkept⟩ := withoutZone_split s hz.byteLength hlast
  by_cases hlong : 8 ≤ byteLength s
  · rw [hcut ⟨hz, hlong⟩]
    exact iff_of_true h hlong
  · rw [hkept fun h => hlong h.2]
    exact iff_of_false (fun hbare => hbare.not_offsetLike hz) hlong

/-- A text is a date or a time just if it is a bare one, and an end that is cut after it. Any timezone is
cut after a bare form, but an offset only if the form has eight bytes. -/
theorem timezone_dropped (ht : t = .date ∨ t = .time) (lexical : String) (v : AttributeValue) :
    (read t lexical = .ok v ↔
      ∃ b z, trim lexical.toList = b ++ z ∧ Cut b z ∧ Bare t b v) ∧
    ∀ b z, trim lexical.toList = b ++ z → Bare t b v → Zone z →
      (read t lexical = .ok v ↔ z.length < 6 ∨ 8 ≤ byteLength b) := by
  rw [read_eq_ok_iff_bare ht]
  constructor
  · constructor
    · intro h
      obtain ⟨z, hsplit, hcut⟩ := exists_cut (trim lexical.toList)
      exact ⟨_, z, hsplit, hcut, h⟩
    · rintro ⟨b, z, hsplit, hcut, hbare⟩
      rw [hsplit]
      cases hcut with
      | none => rwa [List.append_nil, hbare.withoutZone]
      | zulu => rwa [withoutZone_zulu]
      | offset hz hlast hlong => exact (hbare.withoutZone_offset hz hlast).2 hlong
  · intro b z hsplit hbare hzone
    rw [hsplit]
    by_cases hshort : z.length < 6
    · refine iff_of_true ?_ (.inl hshort)
      cases hzone with
      | none => rwa [List.append_nil, hbare.withoutZone]
      | zulu => rwa [withoutZone_zulu]
      | offset _ hhours _ hminutes _ => simp [hhours, hminutes] at hshort
    · obtain ⟨hz, hlast⟩ := hzone.offsetLike (Nat.le_of_not_lt hshort)
      rw [hbare.withoutZone_offset hz hlast, or_iff_right hshort]

/-- An offset after a date, and an offset after a time that is too short for it. -/
theorem timezone_dropped_offsets :
    read .date "2020-01-01+14:00" = .ok (.date ⟨2020, 1, 1, by decide⟩) ∧
      ¬ read .time "9:3:1-02:00" = .ok (.time ⟨9, 3, 1, 0, by decide⟩) := by
  have hdate : Bare .date "2020-01-01".toList (.date ⟨2020, 1, 1, by decide⟩) := .date (by rfl)
  have htime : Bare .time "9:3:1".toList (.time ⟨9, 3, 1, 0, by decide⟩) := .time (by rfl)
  have hahead : Zone "+14:00".toList :=
    @Zone.offset '+' ['1', '4'] ['0', '0'] (.inl rfl) rfl (List.all_eq_true.1 rfl) rfl
      (List.all_eq_true.1 rfl)
  have hbehind : Zone "-02:00".toList :=
    @Zone.offset '-' ['0', '2'] ['0', '0'] (.inr rfl) rfl (List.all_eq_true.1 rfl) rfl
      (List.all_eq_true.1 rfl)
  constructor
  · have h := (timezone_dropped (.inl rfl) "2020-01-01+14:00" _).2 _ _ (by decide) hdate hahead
    exact h.2 (.inr (by decide))
  · have h := (timezone_dropped (.inr rfl) "9:3:1-02:00" _).2 _ _ (by decide) htime hbehind
    exact fun hread => absurd (h.1 hread) (by decide)

/-- The letters of an end that passes for an offset are dropped. -/
theorem timezone_letters : ¬ ∀ (t : AttributeType) (lexical : String) (v : AttributeValue),
    t = .date ∨ t = .time →
      (read t lexical = .ok v ↔ ∃ b z, trim lexical.toList = b ++ z ∧ Zone z ∧ Bare t b v) := by
  intro hclaim
  have hletters : OffsetLike "+ab:cd".toList :=
    @OffsetLike.intro '+' ['a', 'b'] ['c', 'd'] (.inl rfl) (by decide) (by decide)
  have hdate : Bare .date "2020-01-01".toList (.date ⟨2020, 1, 1, by decide⟩) := .date (by rfl)
  have htrim : trim "2020-01-01+ab:cd".toList = "2020-01-01".toList ++ "+ab:cd".toList := by decide
  have hread : read .date "2020-01-01+ab:cd" = .ok (.date ⟨2020, 1, 1, by decide⟩) := by
    rw [read_eq_ok_iff_bare (.inl rfl), htrim]
    exact (hdate.withoutZone_offset hletters (by decide)).2 (by decide)
  obtain ⟨b, z, hsplit, hzone, hbare⟩ := (hclaim .date _ _ (.inl rfl)).1 hread
  rw [htrim] at hsplit
  have hlast : (b ++ z).getLast? = some 'd' := by
    rw [← hsplit]
    rfl
  -- a timezone ends in `Z` or in a digit
  cases hzone with
  | none =>
    rw [List.append_nil] at hsplit
    rw [← hsplit] at hbare
    exact hbare.not_offsetLike hletters
  | zulu =>
    rw [List.getLast?_concat] at hlast
    cases hlast
  | offset _ _ _ hminutes hminute =>
    obtain ⟨x, y, rfl⟩ := List.length_eq_two.1 hminutes
    rw [List.getLast?_append_of_ne_nil _ (by simp), List.getLast?_append_of_ne_nil _ (by simp)] at hlast
    obtain rfl : y = 'd' := Option.some.inj hlast
    exact absurd (hminute 'd' (by simp)) (by decide)

end AttributeValue

end Xacml
