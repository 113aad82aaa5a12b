/-
Positions in a text count its characters from zero, however many bytes they take. Main statement: the
functions that cut, join and test texts agree on them. A substring is what stands between its bounds; a
joined text is cut into its parts again where their lengths add up; and a test is true if the part
stands at the beginning, at the end, or anywhere, which is to say if its bytes do.
-/
import Mathlib.Algebra.BigOperators.Group.List.Basic
import Mathlib.Algebra.GroupWithZero.Nat
import Xacml.Library.Strings
import Xacml.Proofs.Evaluation.Kernel
import Xacml.Proofs.Text.Search

namespace Xacml

/-! ## Parts of a text -/

namespace Text

/-- A text has a part behind its first `i` characters. -/
def StandsAt (part s : String) (i : Nat) : Prop :=
  ∃ before after : String, s = before ++ part ++ after ∧ before.length = i

variable {part s : String} {i : Nat}

theorem standsAt_iff_toList : StandsAt part s i ↔
    ∃ before after, s.toList = before ++ (part.toList ++ after) ∧ before.length = i := by
  constructor
  · rintro ⟨before, after, rfl, rfl⟩
    exact ⟨before.toList, after.toList, by simp, String.length_toList⟩
  · rintro ⟨before, after, hs, rfl⟩
    refine ⟨String.ofList before, String.ofList after, ?_, String.length_ofList⟩
    rw [← String.toList_inj, hs]
    simp

/-- What stands at a position is what so many characters from there on are. -/
theorem standsAt_iff_take : StandsAt part s i ↔
    i + part.length ≤ s.length ∧ (s.toList.drop i).take part.length = part.toList := by
  rw [standsAt_iff_toList, ← String.length_toList, ← String.length_toList]
  constructor
  · rintro ⟨before, after, hs, rfl⟩
    rw [hs]
    simp
  · rintro ⟨hle, hpart⟩
    refine ⟨s.toList.take i, s.toList.drop (i + part.toList.length), ?_, ?_⟩
    · rw [← List.drop_drop]
      nth_rewrite 1 [← hpart]
      rw [List.take_append_drop, List.take_append_drop]
    · simp
      omega

/-- Parts of one length at one position are the same. -/
theorem StandsAt.unique {part' : String} (h : StandsAt part s i) (h' : StandsAt part' s i)
    (hlength : part.length = part'.length) : part = part' := by
  obtain ⟨-, hpart⟩ := standsAt_iff_take.1 h
  obtain ⟨-, hpart'⟩ := standsAt_iff_take.1 h'
  rw [← String.toList_inj, ← hpart, ← hpart', hlength]

theorem standsAt_take_drop {length : Nat} (h : i + length ≤ s.length) :
    ∃ part, part = String.ofList ((s.toList.drop i).take length) ∧ part.length = length ∧
      StandsAt part s i := by
  have hlength : (String.ofList ((s.toList.drop i).take length)).length = length := by
    rw [String.length_ofList, List.length_take, List.length_drop, String.length_toList]
    omega
  refine ⟨_, rfl, hlength, standsAt_iff_take.2 ⟨?_, ?_⟩⟩
  · rwa [hlength]
  · rw [hlength, String.toList_ofList]

/-- The bound that a number denotes in a text of `n` characters, where -1 is the end. -/
def endPosition (n : Nat) (past : Int64) : Int := if past.toInt = -1 then n else past.toInt

/-- The bounds of a part of a text of `n` characters. -/
def InBounds (n : Nat) (first past : Int64) : Prop :=
  0 ≤ first.toInt ∧ first.toInt ≤ endPosition n past ∧ endPosition n past ≤ n

instance (n : Nat) (first past : Int64) : Decidable (InBounds n first past) :=
  inferInstanceAs (Decidable (_ ∧ _))

/-! ## Joined texts -/

/-- The characters of the first `i` texts. -/
def lengthBefore (parts : List String) (i : Nat) : Nat := ((parts.take i).map String.length).sum

theorem toList_intercalate_empty (parts : List String) :
    ("".intercalate parts).toList = parts.flatMap String.toList := by
  rw [String.toList_intercalate, String.toList_empty]
  induction parts with
  | nil => rfl
  | cons p rest ih =>
    cases rest with
    | nil => simp
    | cons q rest => simpa using ih

theorem length_intercalate_empty (parts : List String) :
    ("".intercalate parts).length = (parts.map String.length).sum := by
  rw [← String.length_toList, toList_intercalate_empty, List.length_flatMap]
  simp only [String.length_toList]

/-- Each text stands in the joined one behind the characters of those before it. -/
theorem standsAt_intercalate {parts : List String} (h : i < parts.length) :
    StandsAt parts[i] ("".intercalate parts) (lengthBefore parts i) := by
  have hsplit : parts = parts.take i ++ parts[i] :: parts.drop (i + 1) := by
    rw [← List.drop_eq_getElem_cons h, List.take_append_drop]
  rw [standsAt_iff_toList, lengthBefore, ← length_intercalate_empty, ← String.length_toList]
  refine ⟨_, ("".intercalate (parts.drop (i + 1))).toList, ?_, rfl⟩
  simp only [toList_intercalate_empty]
  conv_lhs => rw [hsplit, List.flatMap_append, List.flatMap_cons]

theorem lengthBefore_succ {parts : List String} (h : i < parts.length) :
    lengthBefore parts (i + 1) = lengthBefore parts i + parts[i].length := by
  rw [lengthBefore, lengthBefore, List.map_take, List.map_take,
    List.sum_take_succ _ _ (by rwa [List.length_map]), List.getElem_map]

end Text

/-! ## Cutting -/

namespace Library

open Text (StandsAt endPosition InBounds)

section Substring

variable {source : AttributeValue} {s : String} (hs : source.getText = .ok s) (first past : Int64)
include hs

theorem substring_on : (substring source.type).on [source, .integer first, .integer past] =
    Except.mapError (.wrap (.body (substring source.type).id))
      (if InBounds s.length first past then
        .ok (.single (.string (String.ofList ((s.toList.drop first.toInt.toNat).take
          (endPosition s.length past - first.toInt).toNat))))
      else .error (.of (.range first.toInt (endPosition s.length past) s.length))) := by
  rw [FirstOrder.on_kernel rfl]
  dsimp only
  rw [runSubstring, hs, ← String.length_toList]
  rfl

/-- Between its bounds a text has a part, which is its substring. -/
theorem substring_of_inBounds (h : InBounds s.length first past) :
    ∃ part, StandsAt part s first.toInt.toNat ∧
      first.toInt + part.length = endPosition s.length past ∧
      (substring source.type).on [source, .integer first, .integer past] =
        .ok (.single (.string part)) := by
  obtain ⟨hfirst, hle, hpast⟩ := id h
  have hfits : first.toInt.toNat + (endPosition s.length past - first.toInt).toNat ≤ s.length := by
    omega
  obtain ⟨part, hpart, hlength, hstands⟩ := Text.standsAt_take_drop hfits
  refine ⟨part, hstands, by omega, ?_⟩
  rw [substring_on hs, if_pos h, hpart]
  rfl

theorem substring_of_not_inBounds (h : ¬ InBounds s.length first past) :
    (substring source.type).on [source, .integer first, .integer past] =
      .error (.wrap (.body (substring source.type).id)
        (.of (.range first.toInt (endPosition s.length past) s.length))) := by
  rw [substring_on hs, if_neg h]
  rfl

/-- A substring is the part that stands between the bounds. -/
theorem substring_eq_ok_iff {v : Value} :
    (substring source.type).on [source, .integer first, .integer past] = .ok v ↔
      ∃ part, v = .single (.string part) ∧ 0 ≤ first.toInt ∧ StandsAt part s first.toInt.toNat ∧
        first.toInt + part.length = endPosition s.length past := by
  constructor
  · intro hv
    by_cases hin : InBounds s.length first past
    · obtain ⟨part, hstands, hlength, hon⟩ := substring_of_inBounds hs first past hin
      cases hon.symm.trans hv
      exact ⟨part, rfl, hin.1, hstands, hlength⟩
    · cases (substring_of_not_inBounds hs first past hin).symm.trans hv
  · rintro ⟨part, rfl, hfirst, hstands, hlength⟩
    obtain ⟨hle, -⟩ := Text.standsAt_iff_take.1 hstands
    have hin : InBounds s.length first past := ⟨hfirst, by omega, by omega⟩
    obtain ⟨part', hstands', hlength', hon⟩ := substring_of_inBounds hs first past hin
    rw [hon, hstands'.unique hstands (by omega)]

theorem exists_substring_iff :
    (∃ v, (substring source.type).on [source, .integer first, .integer past] = .ok v) ↔
      InBounds s.length first past := by
  constructor
  · rintro ⟨v, hv⟩
    by_contra hin
    cases (substring_of_not_inBounds hs first past hin).symm.trans hv
  · intro hin
    obtain ⟨part, -, -, hon⟩ := substring_of_inBounds hs first past hin
    exact ⟨_, hon⟩

end Substring

/-! ## Joining -/

theorem concatenate_on (parts : List String) : concatenate.on (parts.map .string) =
    .ok (.single (.string ("".intercalate parts))) := by
  have hparts : (parts.map AttributeValue.string).mapM AttributeValue.getString = .ok parts := by
    induction parts with
    | nil => rfl
    | cons p rest ih =>
      rw [List.map_cons, List.mapM_cons, ih]
      rfl
  rw [FirstOrder.on_kernel rfl]
  dsimp only
  rw [hparts]
  rfl

end Library

/-! ## Testing -/

/-- The tests of a part against a whole. -/
inductive TextTest where
  | startsWith
  | endsWith
  | contains
deriving DecidableEq, Repr

namespace TextTest

open Text (StandsAt utf8)

def all : List TextTest := [.startsWith, .endsWith, .contains]

def name : TextTest → String
  | startsWith => "starts-with"
  | endsWith => "ends-with"
  | contains => "contains"

def run : TextTest → List Char → List Char → Bool
  | startsWith, part, whole => part.isPrefixOf whole
  | endsWith, part, whole => part.isSuffixOf whole
  | contains, part, whole => Text.occursIn part whole

/-- The function of the library, for a whole of a type. -/
def function (test : TextTest) : AttributeType → FirstOrderFunction
  | .anyURI => Library.uriTest test.name test.run
  | _ => Library.stringTest test.name test.run

/-- The positions at which a part of some length can pass in a whole of some length. -/
def Allows : TextTest → (part whole i : Nat) → Prop
  | startsWith, _, _, i => i = 0
  | endsWith, part, whole, i => i + part = whole
  | contains, _, _, _ => True

/-- What passes, among characters or among bytes. -/
def Holds {α : Type} : TextTest → List α → List α → Prop
  | startsWith, part, whole => part <+: whole
  | endsWith, part, whole => part <:+ whole
  | contains, part, whole => part <:+: whole

theorem textTests_eq : all.map (fun test => (test.name, test.run)) = Library.textTests := rfl

variable {test : TextTest}

theorem run_iff_holds {part whole : List Char} :
    test.run part whole = true ↔ test.Holds part whole := by
  cases test with
  | startsWith => exact List.isPrefixOf_iff_prefix
  | endsWith => exact List.isSuffixOf_iff_suffix
  | contains =>
    refine Text.occursIn_iff.trans (exists_congr fun before => exists_congr fun after => ?_)
    rw [List.append_assoc, eq_comm]

/-- A test that looks at bytes finds what one that looks at characters does. -/
theorem holds_utf8_iff {part whole : List Char} :
    test.Holds (utf8 part) (utf8 whole) ↔ test.Holds part whole := by
  cases test with
  | startsWith => exact Text.utf8_prefix_iff
  | endsWith => exact Text.utf8_suffix_iff
  | contains => exact Text.utf8_infix_iff

theorem holds_iff_standsAt {part s : String} : test.Holds part.toList s.toList ↔
    ∃ i, test.Allows part.length s.length i ∧ StandsAt part s i := by
  simp only [Text.standsAt_iff_toList, ← String.length_toList]
  cases test with
  | startsWith =>
    constructor
    · rintro ⟨after, hs⟩
      exact ⟨0, rfl, [], after, hs.symm, rfl⟩
    · rintro ⟨_, rfl, before, after, hs, hbefore⟩
      rw [List.length_eq_zero_iff.1 hbefore] at hs
      exact ⟨after, hs.symm⟩
  | endsWith =>
    constructor
    · rintro ⟨before, hs⟩
      refine ⟨before.length, ?_, before, [], by simp [hs], rfl⟩
      rw [← hs]
      exact List.length_append.symm
    · rintro ⟨i, hend, before, after, hs, rfl⟩
      have hafter : after = [] := by
        rw [Allows, hs] at hend
        simp at hend
        exact hend
      rw [hafter, List.append_nil] at hs
      exact ⟨before, hs.symm⟩
  | contains =>
    constructor
    · rintro ⟨before, after, hs⟩
      exact ⟨before.length, trivial, before, after, by rw [← hs, List.append_assoc], rfl⟩
    · rintro ⟨_, -, before, after, hs, -⟩
      exact ⟨before, after, by rw [hs, List.append_assoc]⟩

theorem function_on {part s : String} {whole : AttributeValue} (hs : whole.getText = .ok s) :
    (test.function whole.type).on [.string part, whole] =
      .ok (.ofBool (test.run part.toList s.toList)) := by
  have hrun : Library.runTextTest test.run (.string part) whole =
      .ok (.ofBool (test.run part.toList s.toList)) := by
    rw [Library.runTextTest, hs]
    rfl
  cases whole with
  | string =>
    show (Library.stringTest test.name test.run).on _ = _
    rw [FirstOrder.on_kernel rfl]
    exact congrArg (Except.mapError _) hrun
  | anyURI =>
    show (Library.uriTest test.name test.run).on _ = _
    rw [FirstOrder.on_kernel rfl]
    exact congrArg (Except.mapError _) hrun
  | _ => cases hs

end TextTest

/-! ## Agreement -/

/-- A substring is what stands between its bounds, and there is one if the bounds are in the text. A
joined text is cut into its parts at the sums of their lengths. A test is true if the part stands at a
position that the test allows, which the bytes tell as well. -/
theorem Text.positions_agree :
    (∀ (source : AttributeValue) (s : String), source.getText = .ok s → ∀ first past : Int64,
      ((∃ v, (Library.substring source.type).on [source, .integer first, .integer past] = .ok v) ↔
        0 ≤ first.toInt ∧ first.toInt ≤ endPosition s.length past ∧
          endPosition s.length past ≤ s.length) ∧
      ∀ v, (Library.substring source.type).on [source, .integer first, .integer past] = .ok v ↔
        ∃ part, v = .single (.string part) ∧ 0 ≤ first.toInt ∧ StandsAt part s first.toInt.toNat ∧
          first.toInt + part.length = endPosition s.length past) ∧
    (∀ parts : List String, ∃ whole : String,
      Library.concatenate.on (parts.map .string) = .ok (.single (.string whole)) ∧
      whole.length = lengthBefore parts parts.length ∧
      ∀ (i : Nat) (h : i < parts.length) (first past : Int64),
        first.toInt = lengthBefore parts i → past.toInt = lengthBefore parts (i + 1) →
          (Library.substring .string).on [.string whole, .integer first, .integer past] =
            .ok (.single (.string parts[i]))) ∧
    ∀ (test : TextTest) (part : String) (whole : AttributeValue) (s : String),
      whole.getText = .ok s → ∃ answer : Bool,
        (test.function whole.type).on [.string part, whole] = .ok (.ofBool answer) ∧
        (answer = true ↔ ∃ i, test.Allows part.length s.length i ∧ StandsAt part s i) ∧
        (answer = true ↔ test.Holds (utf8 part.toList) (utf8 s.toList)) := by
  refine ⟨?_, ?_, ?_⟩
  · intro source s hs first past
    exact ⟨Library.exists_substring_iff hs first past,
      fun _ => Library.substring_eq_ok_iff hs first past⟩
  · intro parts
    refine ⟨_, Library.concatenate_on parts, ?_, ?_⟩
    · rw [Text.length_intercalate_empty, lengthBefore, List.take_length]
    · intro i h first past hfirst hpast
      have hstands := Text.standsAt_intercalate h
      rw [Text.lengthBefore_succ h] at hpast
      have hend : endPosition ("".intercalate parts).length past = past.toInt :=
        if_neg (by omega)
      have hwhole : (AttributeValue.string ("".intercalate parts)).getText =
          .ok ("".intercalate parts) := rfl
      refine (Library.substring_eq_ok_iff hwhole first past).2 ⟨_, rfl, by omega, ?_, by omega⟩
      rwa [hfirst, Int.toNat_natCast]
  · intro test part whole s hs
    refine ⟨_, TextTest.function_on hs, ?_, ?_⟩
    · rw [TextTest.run_iff_holds, TextTest.holds_iff_standsAt]
    · rw [TextTest.run_iff_holds, TextTest.holds_utf8_iff]

/-- The second character of a text takes two bytes. -/
theorem Text.positions_agree_accent :
    (Library.substring .string).on [.string "héllo", .integer 1, .integer 3] =
      .ok (.single (.string "él")) ∧
    (Library.substring .anyURI).on [.anyURI "héllo", .integer 2, .integer (-1)] =
      .ok (.single (.string "llo")) ∧
    (∃ whole, Library.concatenate.on [.string "hé", .string "llo"] = .ok (.single (.string whole)) ∧
      (Library.substring .string).on [.string whole, .integer 2, .integer 5] =
        .ok (.single (.string "llo"))) ∧
    (TextTest.contains.function .anyURI).on [.string "él", .anyURI "héllo"] = .ok (.ofBool true) := by
  obtain ⟨hsubstring, hconcatenate, htest⟩ := positions_agree
  have haccent : StandsAt "él" "héllo" 1 := ⟨"h", "lo", by decide, by decide⟩
  refine ⟨?_, ?_, ?_, ?_⟩
  · exact ((hsubstring (.string "héllo") _ rfl 1 3).2 _).2 ⟨"él", rfl, by decide, haccent, by decide⟩
  · exact ((hsubstring (.anyURI "héllo") _ rfl 2 (-1)).2 _).2
      ⟨"llo", rfl, by decide, ⟨"hé", "", by decide, by decide⟩, by decide⟩
  · obtain ⟨whole, hwhole, -, hcut⟩ := hconcatenate ["hé", "llo"]
    exact ⟨whole, hwhole, hcut 1 (by decide) 2 5 (by decide) (by decide)⟩
  · obtain ⟨answer, hanswer, hstands, -⟩ := htest .contains "él" (.anyURI "héllo") _ rfl
    rw [hstands.2 ⟨1, trivial, haccent⟩] at hanswer
    exact hanswer

end Xacml
