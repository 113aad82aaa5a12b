/-
Which texts are integers. A numeral is a decimal with at most one sign. What is read is a numeral
whose number is in range, or such a numeral after a plus sign: the plus sign in front is dropped
before the decimal is read, which may have a sign of its own. Main statement: exactly these texts are
integers; as a literal any other text is an error, and found during evaluation a syntax error.
-/
import Xacml.Proofs.Lexical.RoundTrip
import Xacml.Scope

namespace Xacml

namespace Integer

/-! ## Numerals -/

/-- A decimal with at most one sign, and the number that it denotes. -/
inductive Numeral : List Char → Int → Prop
  | unsigned {digits : List Char} : digits ≠ [] → (∀ c ∈ digits, c.isDigit = true) →
      Numeral digits (Text.digitsValue digits)
  | plus {digits : List Char} : digits ≠ [] → (∀ c ∈ digits, c.isDigit = true) →
      Numeral ('+' :: digits) (Text.digitsValue digits)
  | minus {digits : List Char} : digits ≠ [] → (∀ c ∈ digits, c.isDigit = true) →
      Numeral ('-' :: digits) (-(Text.digitsValue digits : Int))

/-- What can be read: a numeral, or a numeral after a plus sign. -/
def Readable (s : List Char) (i : Int) : Prop :=
  Numeral s i ∨ ∃ rest, s = '+' :: rest ∧ Numeral rest i

variable {s digits : List Char} {i : Int}

/-! ## Reading -/

theorem digit?_eq_some {c : Char} {d : Nat} (h : digit? c = some d) :
    c.isDigit = true ∧ d = c.toNat - '0'.toNat := by
  unfold digit? at h
  split at h
  · rename_i hc
    cases h
    exact ⟨hc, rfl⟩
  · cases h

/-- What is read after a number in range is digits, and the number stays in range. -/
theorem of_readDigits_eq_ok {negative : Bool} {n : Nat} (hn : InRange (signed negative n))
    (h : readDigits negative (signed negative n) digits = .ok i) :
    (∀ c ∈ digits, c.isDigit = true) ∧ i = signed negative (Nat.ofDigitChars 10 digits n) ∧
      InRange i := by
  induction digits generalizing n with
  | nil =>
    cases h
    exact ⟨List.forall_mem_nil _, rfl, hn⟩
  | cons c rest ih =>
    rw [readDigits] at h
    split at h
    · cases h
    · rename_i d hd
      obtain ⟨hc, rfl⟩ := digit?_eq_some hd
      dsimp only at h
      rw [signed_step] at h
      split at h
      · rename_i hnext
        obtain ⟨hrest, hi⟩ := ih hnext h
        exact ⟨List.forall_mem_cons.2 ⟨hc, hrest⟩, hi⟩
      · cases h

/-- A row of digits is read as the number that it denotes, if that is in range. -/
theorem readDigits_eq_ok_iff (negative : Bool) : readDigits negative 0 digits = .ok i ↔
    (∀ c ∈ digits, c.isDigit = true) ∧ i = signed negative (Text.digitsValue digits) ∧
      InRange i := by
  have hzero : signed negative 0 = 0 := by cases negative <;> rfl
  rw [Text.digitsValue_eq]
  constructor
  · intro h
    rw [← hzero] at h
    exact of_readDigits_eq_ok (by rw [hzero]; decide) h
  · rintro ⟨hdigits, rfl, hrange⟩
    have hread := readDigits_eq_ok negative 0 hdigits hrange
    rwa [hzero] at hread

theorem Numeral.readSigned (h : Numeral s i) (hrange : InRange i) :
    readSigned s = .ok i := by
  cases h with
  | unsigned hne hdigits =>
    rw [readSigned_digits hne hdigits]
    exact (readDigits_eq_ok_iff false).2 ⟨hdigits, rfl, hrange⟩
  | plus hne hdigits =>
    rw [readSigned_plus hne]
    exact (readDigits_eq_ok_iff false).2 ⟨hdigits, rfl, hrange⟩
  | minus hne hdigits =>
    rw [readSigned_minus hne]
    exact (readDigits_eq_ok_iff true).2 ⟨hdigits, rfl, hrange⟩

theorem numeral_of_readSigned (h : readSigned s = .ok i) : Numeral s i ∧ InRange i := by
  unfold readSigned at h
  split at h
  · cases h
  · cases h
  · cases h
  · rename_i digits hne
    obtain ⟨hdigits, rfl, hrange⟩ := (readDigits_eq_ok_iff false).1 h
    exact ⟨.plus (by rintro rfl; exact hne rfl) hdigits, hrange⟩
  · rename_i digits hne
    obtain ⟨hdigits, rfl, hrange⟩ := (readDigits_eq_ok_iff true).1 h
    exact ⟨.minus (by rintro rfl; exact hne rfl) hdigits, hrange⟩
  · rename_i hne _ _ _ _
    obtain ⟨hdigits, rfl, hrange⟩ := (readDigits_eq_ok_iff false).1 h
    exact ⟨.unsigned (by rintro rfl; exact hne rfl) hdigits, hrange⟩

/-- After the plus sign that is dropped there may be a sign of the numeral's own. -/
theorem readable_cons_plus {rest : List Char} : Readable ('+' :: rest) i ↔ Numeral rest i := by
  constructor
  · rintro (h | ⟨_, heq, h⟩)
    · cases h with
      | unsigned _ hdigits => exact absurd (hdigits '+' List.mem_cons_self) (by decide)
      | plus hne hdigits => exact .unsigned hne hdigits
    · cases heq
      exact h
  · exact fun h => .inr ⟨rest, rfl, h⟩

theorem readable_of_not_plus (h : ∀ rest, s ≠ '+' :: rest) : Readable s i ↔ Numeral s i :=
  ⟨fun hs => hs.resolve_right fun ⟨rest, heq, _⟩ => h rest heq, .inl⟩

/-- The readable texts are read, and no others. -/
theorem read_eq_ok_iff {a : Int64} : read s = .ok a ↔ Readable s a.toInt := by
  have hbody (body : List Char) : (readSigned body).map Int64.ofInt = .ok a ↔ Numeral body a.toInt := by
    constructor
    · intro h
      cases hread : readSigned body with
      | error fault =>
        rw [hread] at h
        cases h
      | ok i =>
        rw [hread] at h
        cases h
        obtain ⟨hnumeral, hlow, hhigh⟩ := numeral_of_readSigned hread
        rwa [Int64.toInt_ofInt_of_le hlow hhigh]
    · intro h
      rw [h.readSigned (inRange_toInt a)]
      exact congrArg Except.ok (Int64.ofInt_toInt a)
  unfold read
  split
  · rw [readable_cons_plus]
    exact hbody _
  · rename_i hplus
    rw [readable_of_not_plus hplus]
    exact hbody s

end Integer

/-! ## Values -/

namespace AttributeValue

/-- A text is an integer if, without the blanks around it, it is a numeral, or a numeral after a plus
sign, of a number in range. Any other text is refused as a literal, and is a syntax error where it is
found during evaluation and where it is converted. -/
theorem integer_readable (lexical : String) :
    (∀ v, Scope.literal .integer lexical = .ok v ↔
      ∃ a : Int64, v = .integer a ∧ Integer.Readable (Text.trim lexical.toList) a.toInt) ∧
    ((∀ a : Int64, ¬ Integer.Readable (Text.trim lexical.toList) a.toInt) → ∃ fault,
      Scope.literal .integer lexical = .error (.literal .integer lexical fault) ∧
      (∃ failure, readFound .integer lexical = .error failure ∧ failure.status = .syntaxError) ∧
      ∀ (e : Expr) (ctx : Option Context) (c : Pattern.Cache),
        (e.eval ctx c).result = .ok (.single (.string lexical)) → ∃ failure,
          ((Expr.apply (.firstOrder (Library.fromString .integer)) [e]).eval ctx c).result =
            .error failure ∧ failure.status = .syntaxError) := by
  have hread : read .integer lexical =
      ((Integer.read (Text.trim lexical.toList)).map .integer).mapError .integer := rfl
  unfold Scope.literal readFound
  cases h : Integer.read (Text.trim lexical.toList) with
  | ok a =>
    rw [h] at hread
    have ha := Integer.read_eq_ok_iff.1 h
    rw [hread]
    refine ⟨fun v => ⟨?_, ?_⟩, fun hnone => absurd ha (hnone a)⟩
    · rintro ⟨⟩
      exact ⟨a, rfl, ha⟩
    · rintro ⟨b, rfl, hb⟩
      cases h.symm.trans (Integer.read_eq_ok_iff.2 hb)
      rfl
  | error fault =>
    rw [h] at hread
    refine ⟨fun v => ⟨?_, ?_⟩, fun _ => ⟨.integer fault, ?_, ?_, ?_⟩⟩
    · rw [hread]
      rintro ⟨⟩
    · rintro ⟨b, -, hb⟩
      cases h.symm.trans (Integer.read_eq_ok_iff.2 hb)
    · rw [hread]
      rfl
    · rw [hread]
      exact ⟨_, rfl, rfl⟩
    · intro e ctx c he
      rw [Expr.eval_fromString he, readFound, hread]
      exact ⟨_, rfl, rfl⟩

/-- A sign and blanks around the numeral; and a second sign after a minus. -/
theorem integer_readable_signs : Scope.literal .integer " +42 " = .ok (.integer 42) ∧
    ∃ fault, Scope.literal .integer "-+5" = .error (.literal .integer "-+5" fault) := by
  have hplus : Integer.Numeral "+42".toList 42 :=
    @Integer.Numeral.plus "42".toList (by decide) (List.all_eq_true.1 rfl)
  have hsecond : ∀ a : Int64, ¬ Integer.Readable (Text.trim "-+5".toList) a.toInt := by
    intro a ha
    have hread : Integer.read (Text.trim "-+5".toList) = .error .invalidDigit := by rfl
    cases hread.symm.trans (Integer.read_eq_ok_iff.2 ha)
  obtain ⟨fault, hliteral, -⟩ := (integer_readable "-+5").2 hsecond
  exact ⟨((integer_readable " +42 ").1 _).2 ⟨42, rfl, .inl hplus⟩, fault, hliteral⟩

/-- A numeral has at most one sign, but a minus sign after a plus sign is read. -/
theorem integer_two_signs : ¬ ∀ (lexical : String) (v : AttributeValue),
    Scope.literal .integer lexical = .ok v ↔
      ∃ a : Int64, v = .integer a ∧ Integer.Numeral (Text.trim lexical.toList) a.toInt := by
  intro hclaim
  have hread : Scope.literal .integer "+-5" = .ok (.integer (-5)) := by rfl
  obtain ⟨a, -, hnumeral⟩ := (hclaim _ _).1 hread
  have htrim : Text.trim "+-5".toList = ['+', '-', '5'] := by decide
  rw [htrim] at hnumeral
  generalize a.toInt = i at hnumeral
  -- neither a plus sign nor a minus sign is a digit
  cases hnumeral with
  | unsigned _ hdigits => exact absurd (hdigits '+' (by simp)) (by decide)
  | plus _ hdigits => exact absurd (hdigits '-' (by simp)) (by decide)

end AttributeValue

end Xacml
