/-
Where the arguments of a combinator of one bag are split does not show. The leading constants are
bound to the function and the others are given to it in each call; were they all given, the
combinator would evaluate the same arguments under the same positions, call the function with the
same values and end in the same result.
-/
import Xacml.Proofs.Combinator.Combination
import Xacml.Proofs.Evaluation.Likeness

namespace Xacml

open Eval
open Likeness (faithful)

/-! ## Slots and domains -/

/-- The values that an evaluated argument contributes to the calls of a function. -/
def Slot.contributed : Slot → List AttributeValue
  | .value v => [v]
  | .bag b => b.values

/-- Evaluated operands are as their datatypes declare. -/
def SlotsFit (slots : List Slot) (xs : List Operand) : Prop :=
  List.Forall₂ (fun s (x : Operand) => s.Fits x.datatype) slots xs

section Evaluated

variable {xs : List Operand} {F : Failure → Failure → Prop}

theorem Operand.Reliable.matches {x : Operand} (h : x.Reliable) :
    faithful.Match (fun v w => v = w ∧ v.HasType x.datatype) Eq x.eval x.eval := by
  intro c c' hc
  obtain ⟨hresult, hrest⟩ := h.steady c c' hc
  refine ⟨?_, hrest⟩
  rw [← hresult, h.steady.result_eq hc.1]
  exact .of_settles (settles_iff.2 ⟨h.typed, fun _ _ => trivial⟩)

/-- Arguments that are evaluated to slots or to domains are evaluated to the same values. -/
theorem match_slots_domains (id id' : String)
    (hF : ∀ index cause, F (.inArgument id index cause) (.inArgument id' index cause))
    (hx : ∀ x ∈ xs, x.Reliable) (hd : ∀ x ∈ xs, x.datatype ≠ .function) (index : Nat) :
    faithful.Match (fun slots domains => domains = slots.map Slot.contributed ∧ SlotsFit slots xs) F
      (evaluateSlots id index xs) (evaluateDomains id' index xs) := by
  induction xs generalizing index with
  | nil => exact faithful.match_ok ⟨rfl, .nil⟩
  | cons x rest ih =>
    rw [List.forall_mem_cons] at hx hd
    rw [evaluateSlots, evaluateDomains]
    refine (hx.1.matches.mapFailure fun e e' he => he ▸ hF index e).bind ?_
    rintro w _ ⟨rfl, htype⟩
    have hslot (s : Slot) (hs : s.Fits x.datatype) : faithful.Match
        (fun slots domains => domains = slots.map Slot.contributed ∧ SlotsFit slots (x :: rest)) F
        (evaluateSlots id (index + 1) rest >>= fun others => pure (s :: others))
        (evaluateDomains id' (index + 1) rest >>= fun others => pure (s.contributed :: others)) := by
      refine (ih hx.2 hd.2 _).bind ?_
      rintro slots _ ⟨rfl, hfits⟩
      exact faithful.match_pure ⟨rfl, .cons hs hfits⟩
    cases hdt : x.datatype with
    | function => exact absurd hdt hd.1
    | value t =>
      rw [hdt] at htype
      obtain ⟨a, rfl, rfl⟩ := Value.hasType_value_iff.1 htype
      exact hslot (.value a) hdt
    | bag t =>
      rw [hdt] at htype
      obtain ⟨b, rfl, rfl⟩ := Value.hasType_bag_iff.1 htype
      exact hslot (.bag b) hdt

theorem match_slots (id : String) (hx : ∀ x ∈ xs, x.Reliable)
    (hd : ∀ x ∈ xs, x.datatype ≠ .function) (index : Nat) :
    faithful.Match (fun slots slots' => slots = slots' ∧ SlotsFit slots xs) Eq
      (evaluateSlots id index xs) (evaluateSlots id index xs) := by
  have hdomains := match_slots_domains (F := Eq) id id (fun _ _ => rfl) hx hd index
  refine (hdomains.self (Likeness.alike_evaluateSlots (Operand.alike_of_reliable hx) index)).imp ?_
    fun _ _ he => he
  rintro slots _ ⟨rfl, _, -, hfits⟩
  exact ⟨rfl, hfits⟩

end Evaluated

/-! ## Slots of constants -/

section Constants

variable {bound rest : List Operand} {values : List AttributeValue} {slots : List Slot}

theorem elements_of_constants (values : List AttributeValue) (slots : List Slot) :
    Slot.elements (values.map .value ++ slots) = Slot.elements slots := by
  induction values with
  | nil => rfl
  | cons v rest ih => exact ih

theorem fill_of_constants (values : List AttributeValue) (slots : List Slot) (e : AttributeValue) :
    Slot.fill (values.map .value ++ slots) e = values ++ Slot.fill slots e := by
  induction values with
  | nil => rfl
  | cons v rest ih => exact congrArg (v :: ·) ih

theorem types_of_constants (hx : ∀ x ∈ bound, x.Reliable)
    (h : List.Forall₂ Operand.IsConstant bound values) :
    bound.filterMap (·.toStatic.element?) = values.map AttributeValue.type := by
  induction h with
  | nil => rfl
  | cons hv _ ih =>
    rw [List.forall_mem_cons] at hx
    rw [List.filterMap_cons, Static.element?, hv.datatype hx.1, ih hx.2]
    rfl

/-- Constants are evaluated without a trace. -/
theorem match_slots_split (id : String) (hbound : ∀ x ∈ bound, x.Reliable)
    (h : List.Forall₂ Operand.IsConstant bound values) (hx : ∀ x ∈ rest, x.Reliable)
    (hd : ∀ x ∈ rest, x.datatype ≠ .function) (index : Nat) :
    faithful.Match
      (fun slots slots' => slots' = values.map .value ++ slots ∧ SlotsFit slots rest) Eq
      (evaluateSlots id (index + bound.length) rest) (evaluateSlots id index (bound ++ rest)) := by
  induction h generalizing index with
  | nil => exact (match_slots id hx hd index).imp (fun _ _ h => ⟨h.1.symm, h.2⟩) fun _ _ he => he
  | @cons x v bound values hv _ ih =>
    rw [List.forall_mem_cons] at hbound
    have hrest := ih hbound.2 (index + 1)
    rw [List.length_cons, List.cons_append, evaluateSlots, hv.eval, hv.datatype hbound.1,
      Nat.add_comm bound.length 1, ← Nat.add_assoc]
    refine hrest.mapRight (f := fun others => .value v :: others) ?_
    rintro slots _ ⟨rfl, hfits⟩
    exact ⟨rfl, hfits⟩

end Constants

/-! ## Slots with one bag -/

/-- Evaluated arguments with one bag among them. -/
def Slot.around (before : List AttributeValue) (b : Bag) (after : List AttributeValue) : List Slot :=
  before.map .value ++ .bag b :: after.map .value

section Around

variable (before after : List AttributeValue) (b : Bag)

theorem elements_around : Slot.elements (Slot.around before b after) = b.values := by
  have hafter : Slot.elements (after.map .value) = [] := by
    rw [← List.append_nil (after.map Slot.value), elements_of_constants]
    rfl
  rw [Slot.around, elements_of_constants]
  exact (congrArg (b.values ++ ·) hafter).trans (List.append_nil _)

theorem fill_around (v : AttributeValue) :
    Slot.fill (Slot.around before b after) v = before ++ v :: after := by
  have hafter : Slot.fill (after.map .value) v = after := by
    rw [← List.append_nil (after.map Slot.value), fill_of_constants]
    exact List.append_nil _
  rw [Slot.around, fill_of_constants]
  exact congrArg (fun rest => before ++ v :: rest) hafter

variable {slots : List Slot} {xs : List Operand}

theorem SlotsFit.exists_values (h : SlotsFit slots xs) (hnone : xs.countP (·.datatype.isBag) = 0) :
    ∃ values : List AttributeValue, slots = values.map .value := by
  induction h with
  | nil => exact ⟨[], rfl⟩
  | @cons s x slots rest hs _ ih =>
    rw [List.countP_cons] at hnone
    obtain ⟨values, rfl⟩ := ih (by omega)
    cases s with
    | value v => exact ⟨v :: values, rfl⟩
    | bag b =>
      have hx : x.datatype = .bag b.element := hs
      simp [hx, Datatype.isBag] at hnone

theorem SlotsFit.exists_around (h : SlotsFit slots xs) (hone : xs.countP (·.datatype.isBag) = 1) :
    ∃ before b after, slots = Slot.around before b after := by
  induction h with
  | nil => cases hone
  | @cons s x slots rest hs hrest ih =>
    rw [List.countP_cons] at hone
    cases s with
    | value v =>
      have hx : x.datatype = .value v.type := hs
      obtain ⟨before, b, after, rfl⟩ := ih (by simpa [hx, Datatype.isBag] using hone)
      exact ⟨v :: before, b, after, rfl⟩
    | bag b =>
      have hx : x.datatype = .bag b.element := hs
      obtain ⟨after, rfl⟩ := SlotsFit.exists_values hrest (by simpa [hx, Datatype.isBag] using hone)
      exact ⟨[], b, after, rfl⟩

end Around

/-! ## Calls -/

/-- What a combinator of one bag does with its evaluated arguments. -/
def conclude (c : Combinator) (g : FirstOrderFunction) (bound : List Operand)
    (types : List AttributeType) (slots : List Slot) : Eval Value :=
  match c with
  | .map => do
    let answers ← Eval.each (fun e => do
      match ← subCall g bound types (Slot.fill slots e) with
      | .single v => Eval.ok v
      | other => Eval.fail (.of (.notSingle c.id other.datatype))) (Slot.elements slots)
    match g.returns with
    | .value t => return .bag (← Eval.done (Bag.checked t answers))
    | _ => Eval.fail (.of (.unbound c.id))
  | .anyOf => do
    return .ofBool (← Eval.any (fun e => subTest c.id g bound types (Slot.fill slots e))
      (Slot.elements slots))
  | _ => do
    return .ofBool (← Eval.all (fun e => subTest c.id g bound types (Slot.fill slots e))
      (Slot.elements slots))

/-- A combinator of one bag that binds some operands to its function and gives it the others. -/
def runSplit (c : Combinator) (g : FirstOrderFunction) (bound given : List Operand) : Eval Value :=
  evaluateSlots c.id (1 + bound.length) given >>=
    conclude c g bound (given.filterMap (·.toStatic.element?))

/-- The leading constants are bound. -/
theorem runOneBag_eq (c : Combinator) (g : FirstOrderFunction) (xs : List Operand) :
    runOneBag c g xs = runSplit c g (xs.takeWhile (·.toStatic.isBindable))
      (xs.dropWhile (·.toStatic.isBindable)) := by
  cases c <;> rfl

section Conclude

variable {L : Likeness} {c : Combinator} {g : FirstOrderFunction} {bound : List Operand}
  {values : List AttributeValue} {types types' : List AttributeType} {slots slots' : List Slot}

/-- Two conclusions are alike if the calls are, for each element. -/
theorem alike_conclude {bound' : List Operand} (helements : Slot.elements slots' = Slot.elements slots)
    (h : ∀ e ∈ Slot.elements slots, L.Alike (subCall g bound types (Slot.fill slots e))
      (subCall g bound' types' (Slot.fill slots' e))) :
    L.Alike (conclude c g bound types slots) (conclude c g bound' types' slots') := by
  have htest (e) (he : e ∈ Slot.elements slots) :
      L.Match Eq Eq (subTest c.id g bound types (Slot.fill slots e))
        (subTest c.id g bound' types' (Slot.fill slots' e)) := by
    refine ((h e he).bind fun answer => ?_).match
    cases answer.bool? <;> exact L.alike_done _
  unfold conclude
  rw [helements]
  cases c with
  | map =>
    refine Likeness.Alike.bind (Likeness.match_eq_iff.1 (Likeness.match_each fun e he => ?_))
      fun answers => ?_
    · refine ((h e he).bind fun v => ?_).match
      cases v <;> exact L.alike_done _
    · cases g.returns with
      | value t => exact (L.alike_done _).bind fun b => L.alike_pure _
      | _ => exact L.alike_fail _
  | _ =>
    simp only [any_eq_seek, all_eq_seek]
    exact (Likeness.match_eq_iff.1 (Likeness.match_seek htest)).ofBool

end Conclude

namespace OneBagArguments

variable {c : Combinator} {g : FirstOrderFunction} {xs : List Operand}

/-- The types of the bound values come first, and then those of the values that are given. -/
theorem types_split (h : OneBagArguments g xs) {values : List AttributeValue}
    (hvalues : List.Forall₂ Operand.IsConstant (xs.takeWhile (·.toStatic.isBindable)) values) :
    xs.filterMap (·.toStatic.element?) = values.map AttributeValue.type ++
      (xs.dropWhile (·.toStatic.isBindable)).filterMap (·.toStatic.element?) := by
  rw [← types_of_constants h.reliable_bound hvalues, ← List.filterMap_append,
    List.takeWhile_append_dropWhile]

/-- A combinator of one bag does not show that it binds its leading constants. -/
theorem alike_unbound (h : OneBagArguments g xs) :
    faithful.Alike (runOneBag c g xs) (runSplit c g [] xs) := by
  obtain ⟨values, hvalues⟩ := h.exists_bound
  have hone := countP_dropWhile_isBindable.trans h.oneBag
  have hsplit := match_slots_split c.id h.reliable_bound hvalues h.reliable_unbound
    h.noFunction_unbound 1
  rw [List.takeWhile_append_dropWhile] at hsplit
  rw [runOneBag_eq, ← Likeness.match_eq_iff]
  refine hsplit.bind ?_
  rintro slots _ ⟨rfl, hfits⟩
  refine (alike_conclude (elements_of_constants values slots) fun e he => ?_).match
  have htypes := types_fill hfits (elements_of_one_bag hfits hone e he)
  have hall : xs.filterMap (·.toStatic.element?) =
      (values ++ Slot.fill slots e).map AttributeValue.type := by
    rw [h.types_split hvalues, List.map_append, htypes]
  rw [fill_of_constants, hall]
  exact alike_subCall_bound h.reliable_bound hvalues h.bound htypes

end OneBagArguments

/-! ## Trees -/

namespace Expr

variable {c : Combinator} {g : FirstOrderFunction} {f : Expr} {es : List Expr} {ctx : Option Context}

theorem eval_oneBag (hc : c.IsOneBag) (hf : f.value? = some (.function (.firstOrder g))) :
    (Expr.apply (.combinator c) (f :: es)).eval ctx = runOneBag c g (es.map (operand ctx)) := by
  have hoperand : f.operand ctx = ⟨⟨f.datatype, some (.function (.firstOrder g))⟩, f.eval ctx⟩ := by
    rw [operand, static, hf]
  rw [eval_apply, List.map_cons, hoperand]
  rcases hc with rfl | rfl | rfl <;> rfl

/-- What the check of a call of one bag makes sure of, if the arguments keep to their datatypes. -/
theorem oneBagArguments_of_bind (hc : c.IsOneBag) (hf : f.value? = some (.function (.firstOrder g)))
    (hes : ∀ e ∈ es, ∀ w, e.answer ctx = .ok w → w.HasType e.datatype)
    (hb : c.bind (f.static :: es.map static) = .ok ()) :
    OneBagArguments g (es.map (operand ctx)) := by
  obtain ⟨-, g', hg', -, hd, hbags, hbound⟩ := Combinator.bind_eq_ok_iff.1 hb
  cases hf.symm.trans hg'
  rw [List.forall_mem_map] at hd
  rw [Combinator.admitsBags_of_oneBag hc, List.countP_map] at hbags
  rw [Combinator.boundPart_of_oneBag hc, Combinator.givenPart_of_oneBag hc] at hbound
  have hstatic : es.map static = (es.map (operand ctx)).map (·.toStatic) := by
    rw [List.map_map]
    rfl
  rw [hstatic, List.takeWhile_map, List.dropWhile_map, List.filterMap_map] at hbound
  refine ⟨List.forall_mem_map.2 fun e he => reliable_of_typed (hes e he),
    List.forall_mem_map.2 hd, ?_, hbound⟩
  rw [List.countP_map]
  exact hbags

theorem oneBagCall_of_bind (hc : c.IsOneBag) (hg : g ∈ Library.firstOrder)
    (hf : f.value? = some (.function (.firstOrder g)))
    (hes : ∀ e ∈ es, ∀ w, e.answer ctx = .ok w → w.HasType e.datatype)
    (hb : c.bind (f.static :: es.map static) = .ok ()) : OneBagCall g (es.map (operand ctx)) :=
  ⟨oneBagArguments_of_bind hc hf hes hb, hg⟩

end Expr

end Xacml
