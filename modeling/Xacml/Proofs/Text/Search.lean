/-
Searching a text by its bytes. In UTF-8 no character begins inside another, and none is the beginning of
another: where the bytes of a text occur among those of a second, the text occurs in the second, at a
character. So what holds of the bytes at the beginning, at the end or anywhere holds of the characters.
-/
import Xacml.Text.Bytes
import Mathlib.Data.List.Infix

namespace Xacml.Text

variable {s part : List Char}

theorem toByteArray_utf8 (s : List Char) : (utf8 s).toByteArray = s.utf8Encode := rfl

/-- No text goes on with the rest of a character. -/
theorem isPrefix_of_utf8 (h : utf8 part <+: utf8 s) : part <+: s := by
  obtain ⟨rest, hrest⟩ := h
  refine List.isPrefix_of_utf8Encode_append_eq_utf8Encode rest.toByteArray ?_
  rw [← toByteArray_utf8, ← toByteArray_utf8, ← hrest, List.toByteArray_append]

theorem exists_firstByte (c : Char) :
    ∃ b bytes, String.utf8EncodeChar c = b :: bytes ∧ b.IsUTF8FirstByte := by
  obtain ⟨b, bytes, hc⟩ := List.exists_cons_of_ne_nil (String.utf8EncodeChar_ne_nil (c := c))
  have hlt : 0 < (String.utf8EncodeChar c).length := by simp [hc]
  have hfirst : (String.utf8EncodeChar c)[0].IsUTF8FirstByte :=
    UInt8.isUTF8FirstByte_getElem_utf8EncodeChar.2 rfl
  refine ⟨b, bytes, hc, ?_⟩
  simpa only [hc, List.getElem_cons_zero] using hfirst

/-- A byte that begins a character is only at the beginning of one. -/
theorem split_of_firstByte {before rest : List UInt8} {b : UInt8} (hb : b.IsUTF8FirstByte)
    (h : utf8 s = before ++ b :: rest) : ∃ s₁ s₂, s = s₁ ++ s₂ ∧ utf8 s₂ = b :: rest := by
  induction s generalizing before with
  | nil => cases before <;> cases h
  | cons c s ih =>
    rw [utf8_cons] at h
    rcases List.append_eq_append_iff.1 h with ⟨m, hbefore, hrest⟩ | ⟨m, hc, hrest⟩
    · obtain ⟨s₁, s₂, rfl, hs₂⟩ := ih hrest
      exact ⟨c :: s₁, s₂, rfl, hs₂⟩
    · cases m with
      | nil => exact ⟨[c], s, rfl, hrest.symm⟩
      | cons d m =>
        cases hrest
        -- the byte is one of this character, so it is the first
        have hd : (String.utf8EncodeChar c)[before.length]? = some b := by simp [hc]
        obtain ⟨hlt, hget⟩ := List.getElem?_eq_some_iff.1 hd
        have hzero := UInt8.isUTF8FirstByte_getElem_utf8EncodeChar.1 (hget ▸ hb)
        rw [List.length_eq_zero_iff.1 hzero, List.nil_append] at hc
        exact ⟨[], c :: s, rfl, by rw [utf8_cons, hc]; rfl⟩

theorem utf8_prefix_iff : utf8 part <+: utf8 s ↔ part <+: s := by
  refine ⟨isPrefix_of_utf8, ?_⟩
  rintro ⟨rest, rfl⟩
  exact ⟨utf8 rest, (utf8_append part rest).symm⟩

theorem utf8_inj {t : List Char} : utf8 s = utf8 t ↔ s = t := by
  refine ⟨fun h => ?_, congrArg utf8⟩
  have hst : s <+: t := isPrefix_of_utf8 (h ▸ List.prefix_rfl)
  have hts : t <+: s := isPrefix_of_utf8 (h ▸ List.prefix_rfl)
  exact hst.eq_of_length_le hts.length_le

/-- Where the bytes of a text occur, it is at the beginning of what is left. -/
theorem split_of_utf8 {before after : List UInt8} (hpart : part ≠ [])
    (h : utf8 s = before ++ (utf8 part ++ after)) :
    ∃ s₁ s₂, s = s₁ ++ s₂ ∧ utf8 s₂ = utf8 part ++ after := by
  obtain ⟨c, part, rfl⟩ := List.exists_cons_of_ne_nil hpart
  obtain ⟨b, bytes, hc, hb⟩ := exists_firstByte c
  rw [utf8_cons, hc, List.cons_append, List.cons_append] at h ⊢
  exact split_of_firstByte hb h

theorem utf8_infix_iff : utf8 part <:+: utf8 s ↔ part <:+: s := by
  constructor
  · rintro ⟨before, after, h⟩
    by_cases hpart : part = []
    · rw [hpart]
      exact List.nil_infix
    · rw [List.append_assoc] at h
      obtain ⟨s₁, s₂, rfl, hs₂⟩ := split_of_utf8 hpart h.symm
      have hprefix : part <+: s₂ := isPrefix_of_utf8 ⟨after, hs₂.symm⟩
      exact hprefix.isInfix.trans (List.suffix_append s₁ s₂).isInfix
  · rintro ⟨before, after, rfl⟩
    exact ⟨utf8 before, utf8 after, by rw [utf8_append, utf8_append]⟩

theorem utf8_suffix_iff : utf8 part <:+ utf8 s ↔ part <:+ s := by
  constructor
  · rintro ⟨before, h⟩
    by_cases hpart : part = []
    · rw [hpart]
      exact List.nil_suffix
    · rw [← List.append_nil (utf8 part)] at h
      obtain ⟨s₁, s₂, rfl, hs₂⟩ := split_of_utf8 hpart h.symm
      rw [List.append_nil] at hs₂
      exact ⟨s₁, by rw [utf8_inj.1 hs₂]⟩
  · rintro ⟨before, rfl⟩
    exact ⟨utf8 before, (utf8_append before part).symm⟩

end Xacml.Text
