/-
What it means for a value to be of a datatype, and for evaluated arguments to fit a signature. A
problem is a mismatch if it says that something was not of the kind that its place admits; a
failure is a fault of the values if it names one problem that is no mismatch.
-/
import Xacml.Cast
import Xacml.Function.Basic
import Xacml.Proofs.Evaluation.Ensures

namespace Xacml

/-! ## Values of a datatype -/

namespace Value

/-- A value is of a datatype if that is what it is declared as: a single value is of its type, and a
bag holds values of its element type only. -/
def HasType (v : Value) (d : Datatype) : Prop := v.datatype = d

theorem hasType_single (a : AttributeValue) : (Value.single a).HasType (.value a.type) := rfl

theorem hasType_ofBool (b : Bool) : (ofBool b).HasType .boolean := hasType_single (.boolean b)

theorem hasType_bag (b : Bag) : (Value.bag b).HasType (.bag b.element) := rfl

theorem hasType_value_iff {v : Value} {t : AttributeType} :
    v.HasType (.value t) ↔ ∃ a, v = .single a ∧ a.type = t := by
  constructor
  · intro h
    cases v with
    | single a => cases h; exact ⟨a, rfl, rfl⟩
    | bag b => cases h
    | function f => cases h
  · rintro ⟨a, rfl, rfl⟩; exact hasType_single a

theorem hasType_bag_iff {v : Value} {t : AttributeType} :
    v.HasType (.bag t) ↔ ∃ b, v = .bag b ∧ b.element = t := by
  constructor
  · intro h
    cases v with
    | single a => cases h
    | bag b => cases h; exact ⟨b, rfl, rfl⟩
    | function f => cases h
  · rintro ⟨b, rfl, rfl⟩; exact hasType_bag b

/-- The value of a boolean datatype is a boolean. -/
theorem HasType.eq_ofBool {v : Value} (h : v.HasType .boolean) : ∃ b, v = ofBool b := by
  obtain ⟨a, rfl, ha⟩ := hasType_value_iff.1 h
  cases a with
  | boolean b => exact ⟨b, rfl⟩
  | _ => cases ha

end Value

/-- An answer that is a boolean is of the boolean datatype once it is a value. -/
theorem Eval.Ensures.ofBool {x : Eval Bool} {E : Event → Prop} {F : Failure → Prop}
    (h : x.Ensures E (fun _ => True) F) :
    (x >>= fun b => pure (Value.ofBool b)).Ensures E (·.HasType .boolean) F :=
  h.bind fun b _ => ensures_pure (Value.hasType_ofBool b)

/-! ## Mismatches -/

namespace Problem

/-- Whether a problem says that a value was not of the kind that its place admits. -/
def isMismatch : Problem → Bool
  | expectedValue _ | expectedBag _ | argumentKind _ _ _ | expectedBags _ => true
  | remainingCount _ _ _ | remainingType _ _ _ _ | noArgument _ _ => true
  | cast _ _ | representation _ _ | notText _ => true
  | element _ _ _ | providerType _ _ => true
  | notBoolean _ _ | notSingle _ _ | condition _ => true
  | incomparable _ _ | patternType _ | subjectType _ _ | unbound _ | assertion _ => true
  | _ => false

end Problem

namespace Failure

/-- A single problem with the values themselves, which are of the kinds that their places admit. -/
def IsFault (e : Failure) : Prop := ∃ p : Problem, p.isMismatch = false ∧ e = .of p

theorem isFault_of {p : Problem} (h : p.isMismatch = false) : (of p).IsFault := ⟨p, h, rfl⟩

end Failure

/-! ## Evaluated arguments -/

namespace Arguments

/-- The datatypes of evaluated arguments, in parameter order. -/
def types (a : Arguments) : List Datatype :=
  a.values.map (fun v => .value v.type) ++ a.bags.map (fun b => .bag b.element)

/-- The arguments are a list that the signature accepts. -/
def Fits (a : Arguments) (s : Signature) : Prop := s.Accepts a.types

end Arguments

/-! ## What a value of a type holds -/

namespace AttributeValue

variable {a : AttributeValue}

theorem getString_of_type (h : a.type = .string) : ∃ s, a.getString = .ok s := by
  cases a with
  | string s => exact ⟨s, rfl⟩
  | _ => cases h

theorem getBoolean_of_type (h : a.type = .boolean) : ∃ b, a.getBoolean = .ok b := by
  cases a with
  | boolean b => exact ⟨b, rfl⟩
  | _ => cases h

theorem getInteger_of_type (h : a.type = .integer) : ∃ i, a.getInteger = .ok i := by
  cases a with
  | integer i => exact ⟨i, rfl⟩
  | _ => cases h

theorem getDouble_of_type (h : a.type = .double) : ∃ d, a.getDouble = .ok d := by
  cases a with
  | double d => exact ⟨d, rfl⟩
  | _ => cases h

theorem getText_of_type (h : a.type = .string ∨ a.type = .anyURI) : ∃ s, a.getText = .ok s := by
  cases a with
  | string s => exact ⟨s, rfl⟩
  | anyURI uri => exact ⟨uri, rfl⟩
  | _ => rcases h with h | h <;> cases h

/-- If a view has an answer for every value of a type, it has one for a list of them. -/
theorem mapM_of_type {α : Type} {get : AttributeValue → Except Failure α} {t : AttributeType}
    (hget : ∀ a : AttributeValue, a.type = t → ∃ x, get a = .ok x) :
    ∀ {values : List AttributeValue}, (∀ a ∈ values, a.type = t) →
      ∃ xs, values.mapM get = .ok xs
  | [], _ => ⟨[], rfl⟩
  | a :: rest, h => by
    obtain ⟨x, hx⟩ := hget a (h a List.mem_cons_self)
    obtain ⟨xs, hxs⟩ := mapM_of_type hget fun b hb => h b (List.mem_cons_of_mem _ hb)
    refine ⟨x :: xs, ?_⟩
    rw [List.mapM_cons, hx, hxs]
    rfl

end AttributeValue

end Xacml
