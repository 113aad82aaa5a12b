/-
The written forms of values as their canonical texts. Whatever text a value was read from, it is read
back from its own text, which is the same for all texts that denote the value; and so the conversion
from a string undoes the conversion to one. Doubles and dateTimes are not treated here.
-/
import Xacml.Library.Standard
import Xacml.Proofs.Evaluation.Sequence
import Xacml.Proofs.Lexical.Calendar
import Xacml.Proofs.Lexical.Number
import Xacml.Evaluation.Expr

namespace Xacml

/-! ## Conversion to a string and back -/

namespace Library

theorem mem_firstOrder_conversions {t : AttributeType} (h : t ∈ convertibleTypes) :
    fromString t ∈ firstOrder ∧ stringFrom t ∈ firstOrder := by
  have hstrings : ∀ f ∈ [fromString t, stringFrom t], f ∈ firstOrder := by
    intro f hf
    have hconversion : f ∈ convertibleTypes.flatMap fun t => [fromString t, stringFrom t] :=
      List.mem_flatMap.2 ⟨t, h, hf⟩
    simp only [firstOrder, strings, List.mem_append]
    exact .inl (.inl (.inr (.inr hconversion)))
  exact ⟨hstrings _ (by simp), hstrings _ (by simp)⟩

end Library

namespace Expr

variable {t : AttributeType} {e : Expr} {ctx : Option Context} {c : Pattern.Cache}
  {v : AttributeValue}

/-- The value of an expression, converted to a string and from that to the type again. -/
def throughString (t : AttributeType) (e : Expr) : Expr :=
  .apply (.firstOrder (Library.fromString t)) [.apply (.firstOrder (Library.stringFrom t)) [e]]

theorem eval_stringFrom (h : (e.eval ctx c).result = .ok (.single v)) :
    ((apply (.firstOrder (Library.stringFrom t)) [e]).eval ctx c).result =
      .ok (.single (.string v.text)) := by
  rw [eval_apply]
  exact unary_run_of_ok (x := e.operand ctx) h

/-- A conversion from a string reads it, and wraps the failure if it cannot. -/
theorem eval_fromString {s : String} (h : (e.eval ctx c).result = .ok (.single (.string s))) :
    ((apply (.firstOrder (Library.fromString t)) [e]).eval ctx c).result =
      ((AttributeValue.readFound t s).map .single).mapError
        (.wrap (.body (Library.fromString t).id)) := by
  have hread : ((apply (.firstOrder (Library.fromString t)) [e]).eval ctx c).result =
      (AttributeValue.readFound t s >>= fun w => pure (Value.single w)).mapError
        (.wrap (.body (Library.fromString t).id)) := by
    rw [eval_apply]
    exact unary_run_of_ok (x := e.operand ctx) h
  rw [hread]
  cases AttributeValue.readFound t s <;> rfl

/-- The second conversion reads the text of the value. -/
theorem eval_throughString (h : (e.eval ctx c).result = .ok (.single v)) :
    ((throughString t e).eval ctx c).result =
      ((AttributeValue.readFound t v.text).map .single).mapError
        (.wrap (.body (Library.fromString t).id)) :=
  eval_fromString (eval_stringFrom h)

end Expr

/-! ## Values -/

namespace AttributeValue

/-- Values that are no dateTimes are the same just if they are equal. -/
theorem same_iff_eq {v w : AttributeValue} (h : w.type ≠ .dateTime) : w.same v = true ↔ w = v := by
  cases w with
  | dateTime _ => exact absurd rfl h
  | _ => simp [same]

theorem readBoolean_text (b : Bool) : read .boolean (text (.boolean b)) = .ok (.boolean b) := by
  cases b <;> rfl

/-- What is written without blanks is read as it stands. -/
theorem trim_ofList {s : List Char} (h : ∀ c ∈ s, Text.isBlank c = false) :
    Text.trim (String.ofList s).toList = s := by
  rw [String.toList_ofList]
  exact Text.trim_eq_self h

/-- A value is read back from its text, if blanks around a URI do not matter. -/
theorem read_text {v : AttributeValue} (hdouble : v.type ≠ .double) (hdateTime : v.type ≠ .dateTime)
    (huri : ∀ uri, v = .anyURI uri → Text.trim uri.toList = uri.toList) :
    read v.type v.text = .ok v := by
  cases v with
  | string s => rfl
  | boolean b => exact readBoolean_text b
  | integer i =>
    have htrim : Text.trim (Integer.text i).toList = (Integer.text i).toList :=
      Text.trim_eq_self fun _ hc => Integer.isBlank_text hc
    simp only [type, text, read, htrim, Integer.read_text, Except.map, Except.mapError]
  | double d => exact absurd rfl hdouble
  | anyURI uri =>
    simp only [type, text, read, huri uri rfl, String.ofList_toList]
  | date d =>
    have htrim : Text.trim d.text.toList = d.chars := trim_ofList fun _ hc =>
      (Calendar.Date.isMark_of_mem_chars hc).elim Text.isBlank_of_isDigit
        Calendar.isBlank_of_isMark
    simp only [type, text, read, htrim, Calendar.readDate_chars, Except.map, Except.mapError]
  | dateTime t => exact absurd rfl hdateTime
  | time t =>
    have htrim : Text.trim t.text.toList = t.chars := trim_ofList fun _ hc =>
      (Calendar.Time.isMark_of_mem_chars hc).elim Text.isBlank_of_isDigit
        Calendar.isBlank_of_isMark
    simp only [type, text, read, htrim, Calendar.readTime_chars, Except.map, Except.mapError]
  | hexBinary bytes =>
    have htrim : Text.trim (String.ofList (Text.hexText bytes)).toList = Text.hexText bytes :=
      trim_ofList fun _ hc => Text.isBlank_hexText hc
    simp only [type, text, read, htrim, Text.readHex_hexText, Except.map, Except.mapError]

/-- A URI that has been read has no blanks around it. -/
theorem trim_of_read {t : AttributeType} {lexical uri : String}
    (h : read t lexical = .ok (.anyURI uri)) : Text.trim uri.toList = uri.toList := by
  obtain rfl : AttributeType.anyURI = t := type_of_read h
  obtain rfl : String.ofList (Text.trim lexical.toList) = uri := by
    injection Except.ok.inj h
  rw [String.toList_ofList, Text.trim_trim]

/-- A value that has been read, of any type but double and dateTime, is read back from its text. That
is the text of every value read that is the same, and where there are conversions to a string and
from one, the second undoes the first. -/
theorem text_canonical {t : AttributeType} (hdouble : t ≠ .double) (hdateTime : t ≠ .dateTime)
    {lexical : String} {v : AttributeValue} (h : read t lexical = .ok v) :
    read t v.text = .ok v ∧
    (∀ lexical' w, read t lexical' = .ok w → w.same v = true → w.text = v.text) ∧
    (t ∈ Library.convertibleTypes →
      Library.fromString t ∈ Library.firstOrder ∧ Library.stringFrom t ∈ Library.firstOrder ∧
      ∀ (e : Expr) (ctx : Option Context) (c : Pattern.Cache),
        (e.eval ctx c).result = .ok (.single v) →
          ((e.throughString t).eval ctx c).result = .ok (.single v)) := by
  have htype := type_of_read h
  have hread : read t v.text = .ok v := by
    rw [← htype] at hdouble hdateTime ⊢
    refine read_text hdouble hdateTime ?_
    rintro uri rfl
    exact trim_of_read h
  refine ⟨hread, fun lexical' w hw hsame => ?_, fun ht => ?_⟩
  · have hwtype : w.type ≠ .dateTime := by rwa [type_of_read hw]
    rw [(same_iff_eq hwtype).1 hsame]
  · obtain ⟨hfrom, hto⟩ := Library.mem_firstOrder_conversions ht
    refine ⟨hfrom, hto, fun e ctx c he => ?_⟩
    have hfound : readFound t v.text = .ok v := by
      unfold readFound
      rw [hread]
      rfl
    rw [Expr.eval_throughString he, hfound]
    rfl

/-- The leap second at the end of a day, with a fraction and a timezone. -/
theorem text_canonical_leap : ∃ v, read .time " 23:59:60.50Z" = .ok v ∧ v.text = "23:59:60.500" ∧
    AttributeType.time ≠ .double ∧ AttributeType.time ≠ .dateTime ∧ read .time v.text = .ok v := by
  have hread : read .time " 23:59:60.50Z" =
      .ok (.time ⟨23, 59, 59, 1500000000, by decide⟩) := by rfl
  exact ⟨_, hread, by rfl, by decide, by decide, (text_canonical (by decide) (by decide) hread).1⟩

end AttributeValue

end Xacml
