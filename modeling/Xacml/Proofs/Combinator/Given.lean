/-
Bound or given. A first-order function answers the same whether values are bound to it beforehand,
as constants, or given to it in the call: its arguments are the same either way, and a pattern that
is compiled beforehand is the one that the store would have handed out.
-/
import Xacml.Proofs.Evaluation.Answer
import Xacml.Proofs.Evaluation.Sequence
import Xacml.Proofs.Typing.Combinator

namespace Xacml

open Eval

/-- What a function answers when it is called with values. -/
def FirstOrder.on (g : FirstOrderFunction) (values : List AttributeValue) : Except Failure Value :=
  (g.run [] (values.map AttributeValue.type) values).answer

namespace Operand

/-- An operand keeps to what is known of it, whatever faithful store it is evaluated with. -/
structure Reliable (x : Operand) : Prop where
  steady : x.eval.Steady
  typed : ∀ w, x.eval.answer = .ok w → w.HasType x.datatype
  known : ∀ w, x.value? = some w → x.eval = .ok w

/-- An operand is a constant with this value. -/
structure IsConstant (x : Operand) (v : AttributeValue) : Prop where
  value : x.value? = some (.single v)
  eval : x.eval = .ok (.single v)

variable {x : Operand}

theorem Reliable.isConstant (h : x.Reliable) {v : AttributeValue}
    (hv : x.value? = some (.single v)) : x.IsConstant v :=
  ⟨hv, h.known _ hv⟩

theorem IsConstant.datatype {v : AttributeValue} (h : x.IsConstant v) (hx : x.Reliable) :
    x.datatype = .value v.type :=
  (hx.typed _ (congrArg Eval.answer h.eval)).symm

end Operand

section Bound

variable {bound : List Operand} {values given : List AttributeValue}

theorem datatypes_of_constants (hx : ∀ x ∈ bound, x.Reliable)
    (h : List.Forall₂ Operand.IsConstant bound values) :
    bound.map (·.datatype) = (values.map AttributeValue.type).map .value := by
  induction h with
  | nil => rfl
  | cons hv _ ih =>
    rw [List.forall_mem_cons] at hx
    rw [List.map_cons, hv.datatype hx.1, ih hx.2]
    rfl

/-- The arguments of the call are the same. -/
theorem callArguments_bound (h : List.Forall₂ Operand.IsConstant bound values) :
    callArguments bound given = callArguments [] (values ++ given) := by
  have hvalues : bound.map (·.eval) = values.map fun v => .ok (.single v) := by
    induction h with
    | nil => rfl
    | cons hx _ ih => rw [List.map_cons, List.map_cons, hx.eval, ih]
  rw [callArguments, callArguments, hvalues, List.map_nil, List.nil_append, List.map_append]

theorem valueAt_of_none {id : String} {operands : List Operand} {i : Nat}
    (h : (callArguments operands given)[i]? = none) :
    valueAt id operands given i = .fail (.of (.noArgument id i)) := by
  rw [List.getElem?_eq_none_iff, length_callArguments] at h
  rw [valueAt, List.getElem?_eq_none (by omega), List.getElem?_eq_none (by omega)]

/-- What is at a position depends on the argument there alone. -/
theorem valueAt_congr (id : String) {operands operands' : List Operand}
    {given given' : List AttributeValue} {i : Nat}
    (h : (callArguments operands given)[i]? = (callArguments operands' given')[i]?) :
    valueAt id operands given i = valueAt id operands' given' i := by
  cases hi : (callArguments operands given)[i]? with
  | some x => rw [valueAt_eq id hi, valueAt_eq id (h ▸ hi)]
  | none => rw [valueAt_of_none hi, valueAt_of_none (h ▸ hi)]

theorem valueAt_bound (id : String) (h : List.Forall₂ Operand.IsConstant bound values) (i : Nat) :
    valueAt id bound given i = valueAt id [] (values ++ given) i :=
  valueAt_congr id (by rw [callArguments_bound h])

theorem booleanAt_bound (id : String) (h : List.Forall₂ Operand.IsConstant bound values) :
    booleanAt id bound given = booleanAt id [] (values ++ given) := by
  funext i
  rw [booleanAt, booleanAt, valueAt_bound id h]

/-! ## Bodies -/

theorem evaluateArguments_bound {g : FirstOrderFunction}
    (h : List.Forall₂ Operand.IsConstant bound values) (index : Nat)
    (hparameters : ∀ i < bound.length, (g.signature.parameter? (index + i)).any Datatype.isBag = false) :
    evaluateArguments g index bound = .ok ⟨values, []⟩ := by
  induction h generalizing index with
  | nil => rfl
  | @cons x v bound values hx _ ih =>
    have hfirst := hparameters 0 (Nat.zero_lt_succ _)
    have hrest := ih (index + 1) fun i hi => by
      have := hparameters (i + 1) (Nat.succ_lt_succ hi)
      rwa [Nat.add_comm i 1, ← Nat.add_assoc] at this
    rw [Nat.add_zero] at hfirst
    rw [evaluateArguments, hfirst, if_neg Bool.false_ne_true, hx.eval, hrest]
    rfl

theorem runKernel_bound {g : FirstOrderFunction} {kernel : Arguments → Except Failure Value}
    {types : List AttributeType} (h : List.Forall₂ Operand.IsConstant bound values)
    (hparameters : ∀ i < bound.length, (g.signature.parameter? i).any Datatype.isBag = false)
    (htypes : given.map AttributeValue.type = types) :
    runKernel g kernel bound types given =
      runKernel g kernel [] ((values ++ given).map AttributeValue.type) (values ++ given) := by
  subst htypes
  rw [runKernel, runKernel, checkGiven_of_types, checkGiven_of_types,
    evaluateArguments_bound h 0 fun i hi => by rw [Nat.zero_add]; exact hparameters i hi,
    evaluateArguments]
  rfl

theorem runConnective_bound {id : String} (c : Connective) (count : Nat)
    (h : List.Forall₂ Operand.IsConstant bound values) :
    runConnective c id bound count given = runConnective c id [] count (values ++ given) := by
  unfold runConnective runNOf
  rw [booleanAt_bound id h, valueAt_bound id h]

/-- A pattern that has been compiled is the one that any faithful store hands out. -/
theorem alike_compiled (p : String) :
    Likeness.faithful.Alike
      (match Pattern.compile? p with
        | some compiled => .ok compiled
        | none => .fail (.of (.pattern p)))
      (Eval.pattern p) := by
  intro c c' hc
  obtain ⟨hfound, hleft⟩ := hc.2.request p
  rcases hr : c'.request p with ⟨found, d⟩
  rw [hr] at hfound hleft
  unfold Eval.pattern
  rw [hr, ← (hfound : found = Pattern.compile? p)]
  cases found <;> exact ⟨rfl, ⟨hc.1, hleft⟩, rfl⟩

theorem alike_callPattern_bound (id : String) (h : List.Forall₂ Operand.IsConstant bound values) :
    Likeness.faithful.Alike (callPattern id bound given) (callPattern id [] (values ++ given)) := by
  have hvalue : valueAt id bound given 0 = valueAt id [] (values ++ given) 0 := valueAt_bound id h 0
  cases h with
  | nil => exact Likeness.alike_callPattern .nil given
  | @cons x v bound values hx _ =>
    have hfirst : valueAt id [] (v :: values ++ given) 0 = .ok v := rfl
    have hgiven : constantPattern? (([] : List Operand).map Operand.toStatic) = none := rfl
    unfold callPattern
    rw [hgiven, constantPattern?, List.map_cons, List.head?_cons, Option.bind_some, hx.value,
      hvalue, hfirst]
    cases v with
    | string p => exact alike_compiled p
    | _ => exact Likeness.alike_fail _ _

theorem alike_runMatching_bound (id : String) (h : List.Forall₂ Operand.IsConstant bound values) :
    Likeness.faithful.Alike (runMatching id bound given) (runMatching id [] (values ++ given)) := by
  unfold runMatching
  rw [valueAt_bound id h]
  refine (alike_callPattern_bound id h).bind fun p => (Likeness.alike_valueAt .nil _ 1).bind fun v => ?_
  cases v <;> exact Likeness.alike_done _ _

/-- A function runs alike with its first values bound or given. -/
theorem alike_run_bound {g : FirstOrderFunction} {types : List AttributeType}
    (h : List.Forall₂ Operand.IsConstant bound values)
    (hparameters : ∀ i < bound.length, (g.signature.parameter? i).any Datatype.isBag = false)
    (htypes : given.map AttributeValue.type = types) :
    Likeness.faithful.Alike (g.run bound types given)
      (g.run [] ((values ++ given).map AttributeValue.type) (values ++ given)) := by
  unfold FirstOrder.run
  cases g.body with
  | kernel kind run =>
    dsimp only
    rw [runKernel_bound h hparameters htypes]
    exact Likeness.alike_runKernel .nil run _ _
  | connective c =>
    have hcount : bound.length + types.length =
        ([] : List Operand).length + ((values ++ given).map AttributeValue.type).length := by
      rw [← htypes, h.length_eq, List.length_nil, Nat.zero_add, List.length_map, List.length_map,
        List.length_append]
    dsimp only
    rw [hcount, runConnective_bound c _ h]
    exact (Likeness.alike_runConnective .nil c _ _).ofBool
  | matching => exact (alike_runMatching_bound g.id h).ofBool
  | declaredOnly => exact Likeness.alike_fail _ _

/-! ## Calls that a combinator makes -/

variable {g : FirstOrderFunction} {types : List AttributeType}

/-- What constants are bound to are no bags. -/
theorem parameters_of_bind (hx : ∀ x ∈ bound, x.Reliable)
    (h : List.Forall₂ Operand.IsConstant bound values)
    (hb : g.bind (bound.map (·.toStatic)) types = .ok ()) :
    ∀ i < bound.length, (g.signature.parameter? i).any Datatype.isBag = false := by
  obtain ⟨⟨result, hcheck⟩, -⟩ := FirstOrder.bind_eq_ok_iff.1 hb
  rw [List.map_map] at hcheck
  intro i hi
  have hget := getElem?_callTypes_operand types (List.getElem?_eq_getElem hi)
  rw [Signature.parameter?_of_check hcheck hget, Option.any_some]
  have hconstant : bound[i].IsConstant _ := h.get hi (h.length_eq ▸ hi)
  rw [hconstant.datatype (hx _ (List.getElem_mem hi))]
  rfl

theorem constantValues_of_constants (h : List.Forall₂ Operand.IsConstant bound values) :
    constantValues (bound.map Operand.toStatic) = values := by
  induction h with
  | nil => rfl
  | cons hx _ ih =>
    rw [constantValues, List.map_cons, List.filterMap_cons, hx.value]
    exact congrArg (_ :: ·) ih

/-- The call is noted with the same values, and runs alike. -/
theorem alike_subCall_bound (hx : ∀ x ∈ bound, x.Reliable)
    (h : List.Forall₂ Operand.IsConstant bound values)
    (hb : g.bind (bound.map (·.toStatic)) types = .ok ())
    (ht : given.map AttributeValue.type = types) :
    Likeness.faithful.Alike (subCall g bound types given)
      (subCall g [] ((values ++ given).map AttributeValue.type) (values ++ given)) := by
  unfold subCall
  rw [constantValues_of_constants h]
  exact (Likeness.alike_note _ rfl).bind fun _ =>
    alike_run_bound h (parameters_of_bind hx h hb) ht

end Bound

/-- Called with values that it is bound to, a function answers with what it declares. -/
theorem FirstOrder.on_hasType {g : FirstOrderFunction} {values : List AttributeValue}
    (hg : g ∈ Library.firstOrder) (hb : g.bind [] (values.map AttributeValue.type) = .ok ())
    {v : Value} (hv : g.on values = .ok v) : v.HasType g.returns := by
  have htype := (subCall_ensures [] hg (List.forall_mem_nil _) (List.forall_mem_nil _) hb rfl
    (.empty 0)).1
  exact (settles_iff.1 htype).1 v hv

/-! ## Trees -/

namespace Expr

variable {e : Expr} {ctx : Option Context}

/-- A tree whose value is known evaluates to it, and does so without a trace. -/
theorem eval_of_value? {v : Value} (h : e.value? = some v) : e.eval ctx = .ok v := by
  induction e using Expr.induction with
  | constant w => cases h; rw [eval]
  | leaf l => cases h
  | reference _ definition _ ih => rw [eval]; exact ih h
  | apply f arguments _ => cases h

/-- A tree that fails or answers with a value of its datatype, as an operand. -/
theorem reliable_of_typed (h : ∀ w, e.answer ctx = .ok w → w.HasType e.datatype) :
    (e.operand ctx).Reliable := ⟨e.steady ctx, h, fun _ => eval_of_value?⟩

end Expr

end Xacml
