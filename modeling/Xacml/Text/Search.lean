/-
Where one text occurs in another.
-/
namespace Xacml.Text

/-- Whether `part` occurs in a text. -/
def occursIn (part : List Char) : List Char → Bool
  | [] => part.isEmpty
  | c :: s => part.isPrefixOf (c :: s) || occursIn part s

theorem occursIn_iff {part s : List Char} :
    occursIn part s = true ↔ ∃ before after, s = before ++ (part ++ after) := by
  induction s with
  | nil =>
    constructor
    · intro h
      exact ⟨[], [], by simpa [occursIn] using h⟩
    · rintro ⟨before, after, h⟩
      cases part with
      | nil => rfl
      | cons c part => simp at h
  | cons c s ih =>
    rw [occursIn, Bool.or_eq_true, List.isPrefixOf_iff_prefix, ih]
    constructor
    · rintro (⟨after, h⟩ | ⟨before, after, h⟩)
      · exact ⟨[], after, by simpa using h.symm⟩
      · exact ⟨c :: before, after, by simp [h]⟩
    · rintro ⟨before, after, h⟩
      cases before with
      | nil => exact .inl ⟨after, by simpa using h.symm⟩
      | cons d before =>
        simp only [List.cons_append, List.cons.injEq] at h
        exact .inr ⟨before, after, h.2⟩

end Xacml.Text
