/-
Calls side by side. A call evaluates its operands and puts their answers together; so a call whose
operands are alike, one by one, is alike, whatever the function is.
-/
import Xacml.Proofs.Combinator.Odometer
import Xacml.Proofs.Evaluation.Likeness

namespace Xacml

open Eval

variable {α β : Type}

/-- Related lists, cut before the first elements that fail tests that agree. -/
theorem forall₂_span {R : α → β → Prop} {p : α → Bool} {q : β → Bool} {as : List α} {bs : List β}
    (h : List.Forall₂ R as bs) (hpq : ∀ a b, R a b → p a = q b) :
    List.Forall₂ R (as.takeWhile p) (bs.takeWhile q) ∧
      List.Forall₂ R (as.dropWhile p) (bs.dropWhile q) := by
  induction h with
  | nil => exact ⟨.nil, .nil⟩
  | @cons a b as bs hab hrest ih =>
    rw [List.takeWhile_cons, List.takeWhile_cons, List.dropWhile_cons, List.dropWhile_cons,
      hpq a b hab]
    split
    · exact ⟨.cons hab ih.1, ih.2⟩
    · exact ⟨.nil, .cons hab hrest⟩

namespace Likeness

variable {L : Likeness}

/-! ## Operands -/

/-- Operands of which the same is known, and that are alike to evaluate. -/
structure AlikeOperand (L : Likeness) (x y : Operand) : Prop where
  static : x.toStatic = y.toStatic
  eval : L.Alike x.eval y.eval

section Operands

variable {xs ys : List Operand}

theorem map_toStatic (h : List.Forall₂ L.AlikeOperand xs ys) :
    xs.map Operand.toStatic = ys.map Operand.toStatic := by
  induction h with
  | nil => rfl
  | cons hxy _ ih => rw [List.map_cons, List.map_cons, hxy.static, ih]

theorem getElem?_alike (h : List.Forall₂ L.AlikeOperand xs ys) (i : Nat) :
    (xs[i]? = none ∧ ys[i]? = none) ∨
      ∃ x y, xs[i]? = some x ∧ ys[i]? = some y ∧ L.AlikeOperand x y := by
  induction h generalizing i with
  | nil => exact .inl ⟨rfl, rfl⟩
  | cons hxy _ ih =>
    cases i with
    | zero => exact .inr ⟨_, _, rfl, rfl, hxy⟩
    | succ i => exact ih i

theorem filterMap_element? (h : List.Forall₂ L.AlikeOperand xs ys) :
    xs.filterMap (·.toStatic.element?) = ys.filterMap (·.toStatic.element?) := by
  have hmap := congrArg (List.filterMap Static.element?) (map_toStatic h)
  rwa [List.filterMap_map, List.filterMap_map] at hmap

end Operands

/-! ## Calls of first-order functions -/

section FirstOrder

variable {xs ys : List Operand} {f : FirstOrderFunction} {id : String}

theorem alike_evaluateArguments (h : List.Forall₂ L.AlikeOperand xs ys) (index : Nat) :
    L.Alike (evaluateArguments f index xs) (evaluateArguments f index ys) := by
  induction h generalizing index with
  | nil => exact L.alike_ok _
  | cons hxy _ ih =>
    rw [evaluateArguments, evaluateArguments]
    refine alike_ite ?_ ?_
    · exact (hxy.eval.bag.mapFailure _).bind fun b => (ih _).bind fun others => L.alike_pure _
    · exact (hxy.eval.single.mapFailure _).bind fun v => (ih _).bind fun others => L.alike_pure _

theorem alike_runKernel (h : List.Forall₂ L.AlikeOperand xs ys)
    (kernel : Arguments → Except Failure Value) (types : List AttributeType)
    (given : List AttributeValue) :
    L.Alike (runKernel f kernel xs types given) (runKernel f kernel ys types given) := by
  refine (L.alike_done _).bind fun _ => (alike_evaluateArguments h 0).bind fun evaluated => ?_
  exact (L.alike_note rfl).bind fun _ => (L.alike_done _).mapFailure _

theorem alike_valueAt (h : List.Forall₂ L.AlikeOperand xs ys) (given : List AttributeValue)
    (index : Nat) : L.Alike (valueAt id xs given index) (valueAt id ys given index) := by
  unfold valueAt
  rw [h.length_eq]
  obtain ⟨hx, hy⟩ | ⟨x, y, hx, hy, hxy⟩ := getElem?_alike h index
  · rw [hx, hy]
    cases given[index - ys.length]? with
    | some v => exact L.alike_ok v
    | none => exact L.alike_fail _
  · rw [hx, hy]
    exact hxy.eval.single.mapFailure _

theorem alike_booleanAt (h : List.Forall₂ L.AlikeOperand xs ys) (given : List AttributeValue)
    (index : Nat) : L.Alike (booleanAt id xs given index) (booleanAt id ys given index) :=
  (alike_valueAt h given index).bind fun v => by cases v <;> exact L.alike_done _

theorem alike_untilDecisive {bs cs : List (Eval Bool)} (h : List.Forall₂ L.Alike bs cs)
    (decisive : Bool) (failure : Option Failure) :
    L.Alike (untilDecisive decisive failure bs) (untilDecisive decisive failure cs) := by
  induction h generalizing failure with
  | nil => cases failure <;> exact L.alike_done _
  | cons hb _ ih =>
    rw [untilDecisive_cons, untilDecisive_cons]
    refine hb.attempt.bind fun outcome => ?_
    cases outcome with
    | error e => exact ih _
    | ok b => exact alike_ite (L.alike_ok _) (ih _)

theorem alike_untilReached {bs cs : List (Eval Bool)} (h : List.Forall₂ L.Alike bs cs)
    (needed failures : Nat) (failure : Option Failure) :
    L.Alike (untilReached needed failures failure bs) (untilReached needed failures failure cs) := by
  induction h generalizing needed failures failure with
  | nil => cases failure <;> exact L.alike_done _
  | @cons b c bs cs hb hrest ih =>
    rw [untilReached_cons, untilReached_cons, hrest.length_eq]
    refine hb.attempt.bind fun outcome => ?_
    rcases outcome with e | (_ | _) <;>
      exact alike_ite (L.alike_ok _) (alike_ite (L.alike_ok _) (ih _ _ _))

theorem forall₂_booleans (h : List.Forall₂ L.AlikeOperand xs ys) (given : List AttributeValue)
    (index : Nat → Nat) (positions : List Nat) :
    List.Forall₂ L.Alike (positions.map fun i => booleanAt id xs given (index i))
      (positions.map fun i => booleanAt id ys given (index i)) := by
  induction positions with
  | nil => exact .nil
  | cons i rest ih => exact .cons (alike_booleanAt h given _) ih

theorem alike_runNOf (h : List.Forall₂ L.AlikeOperand xs ys) (count : Nat)
    (given : List AttributeValue) :
    L.Alike (runNOf id xs count given) (runNOf id ys count given) := by
  refine (alike_valueAt h given 0).bind fun v => ?_
  cases v with
  | integer n =>
    refine alike_ite (L.alike_fail _) (alike_ite (L.alike_fail _) (alike_ite (L.alike_ok _) ?_))
    exact alike_untilReached (forall₂_booleans h given (· + 1) _) _ _ _
  | _ => exact L.alike_fail _

theorem alike_runConnective (h : List.Forall₂ L.AlikeOperand xs ys) (c : Connective) (count : Nat)
    (given : List AttributeValue) :
    L.Alike (runConnective c id xs count given) (runConnective c id ys count given) := by
  cases c with
  | or => exact alike_untilDecisive (forall₂_booleans h given (·) _) _ _
  | and => exact alike_untilDecisive (forall₂_booleans h given (·) _) _ _
  | nOf => exact alike_runNOf h count given

theorem alike_callPattern (h : List.Forall₂ L.AlikeOperand xs ys) (given : List AttributeValue) :
    L.Alike (callPattern id xs given) (callPattern id ys given) := by
  unfold callPattern
  rw [map_toStatic h]
  cases constantPattern? (ys.map Operand.toStatic) with
  | some p =>
    dsimp only
    cases Pattern.compile? p <;> exact L.alike_done _
  | none =>
    refine (alike_valueAt h given 0).bind fun v => ?_
    cases v with
    | string p => exact L.alike_pattern p
    | _ => exact L.alike_fail _

theorem alike_runMatching (h : List.Forall₂ L.AlikeOperand xs ys) (given : List AttributeValue) :
    L.Alike (runMatching id xs given) (runMatching id ys given) := by
  refine (alike_callPattern h given).bind fun p => (alike_valueAt h given 1).bind fun v => ?_
  cases v <;> exact L.alike_done _

theorem alike_firstOrder (h : List.Forall₂ L.AlikeOperand xs ys) (types : List AttributeType)
    (given : List AttributeValue) : L.Alike (f.run xs types given) (f.run ys types given) := by
  unfold FirstOrder.run
  cases f.body with
  | kernel kind run => exact alike_runKernel h run types given
  | connective c =>
    rw [h.length_eq]
    exact (alike_runConnective h c _ given).ofBool
  | matching => exact (alike_runMatching h given).ofBool
  | declaredOnly => exact L.alike_fail _

end FirstOrder

/-! ## Calls of combinators -/

section Combinator

variable {xs ys : List Operand} {g : FirstOrderFunction} {id : String} {types : List AttributeType}

theorem alike_subCall (h : List.Forall₂ L.AlikeOperand xs ys) (given : List AttributeValue) :
    L.Alike (subCall g xs types given) (subCall g ys types given) := by
  unfold subCall
  rw [map_toStatic h]
  exact (L.alike_note rfl).bind fun _ => alike_firstOrder h types given

theorem alike_subTest (h : List.Forall₂ L.AlikeOperand xs ys) (given : List AttributeValue) :
    L.Alike (subTest id g xs types given) (subTest id g ys types given) := by
  refine (alike_subCall h given).bind fun answer => ?_
  cases answer.bool? <;> exact L.alike_done _

theorem alike_evaluateSlots (h : List.Forall₂ L.AlikeOperand xs ys) (index : Nat) :
    L.Alike (evaluateSlots id index xs) (evaluateSlots id index ys) := by
  induction h generalizing index with
  | nil => exact L.alike_ok _
  | @cons x y xs ys hxy _ ih =>
    rw [evaluateSlots, evaluateSlots, hxy.static]
    refine (hxy.eval.mapFailure _).bind fun v => ?_
    have hslot (slot : Slot) : L.Alike
        (evaluateSlots id (index + 1) xs >>= fun others => pure (slot :: others))
        (evaluateSlots id (index + 1) ys >>= fun others => pure (slot :: others)) :=
      (ih _).bind fun others => L.alike_pure _
    cases y.datatype.isBag <;> cases v <;> exact (L.alike_done _).bind hslot

theorem alike_runOneBag (h : List.Forall₂ L.AlikeOperand xs ys) (c : Combinator) :
    L.Alike (runOneBag c g xs) (runOneBag c g ys) := by
  unfold runOneBag
  obtain ⟨hbound, hruntime⟩ := forall₂_span h fun x y (hxy : L.AlikeOperand x y) =>
    congrArg Static.isBindable hxy.static
  dsimp only
  rw [filterMap_element? hruntime, hbound.length_eq]
  refine (alike_evaluateSlots hruntime _).bind fun slots => ?_
  cases c with
  | map =>
    refine Alike.bind (alike_each (fun e => (alike_subCall hbound _).bind fun v => ?_) _)
      fun answers => ?_
    · cases v <;> exact L.alike_done _
    · cases g.returns with
      | value t => exact (L.alike_done _).bind fun b => L.alike_pure _
      | _ => exact L.alike_fail _
  | _ =>
    simp only [any_eq_seek, all_eq_seek]
    exact (alike_seek (fun e => alike_subTest hbound _) _).ofBool

theorem alike_evaluateDomains (h : List.Forall₂ L.AlikeOperand xs ys) (index : Nat) :
    L.Alike (evaluateDomains id index xs) (evaluateDomains id index ys) := by
  induction h generalizing index with
  | nil => exact L.alike_ok _
  | @cons x y xs ys hxy _ ih =>
    rw [evaluateDomains, evaluateDomains]
    refine (hxy.eval.mapFailure _).bind fun v => ?_
    have hdomain (domain : List AttributeValue) : L.Alike
        (evaluateDomains id (index + 1) xs >>= fun others => pure (domain :: others))
        (evaluateDomains id (index + 1) ys >>= fun others => pure (domain :: others)) :=
      (ih _).bind fun others => L.alike_pure _
    cases v <;> exact (L.alike_done _).bind hdomain

theorem alike_runEveryCombination (h : List.Forall₂ L.AlikeOperand xs ys) (c : Combinator) :
    L.Alike (runEveryCombination c g xs) (runEveryCombination c g ys) := by
  rw [runEveryCombination_eq, runEveryCombination_eq, filterMap_element? h]
  refine (alike_evaluateDomains h 1).bind fun domains => ?_
  exact (alike_seek (alike_subTest .nil) (Odometer.combinations domains)).ofBool

theorem alike_runTwoBags (h : List.Forall₂ L.AlikeOperand xs ys) (c : Combinator) :
    L.Alike (runTwoBags c g xs) (runTwoBags c g ys) := by
  have htypes := filterMap_element? h
  unfold runTwoBags
  rcases h with _ | ⟨hx, _ | ⟨hy, _ | _⟩⟩
  · exact L.alike_fail _
  · exact L.alike_fail _
  · refine (hx.eval.mapFailure _).bind fun v => (hy.eval.mapFailure _).bind fun w => ?_
    rw [htypes]
    cases v <;> cases w <;> try exact L.alike_fail _
    have htest (types : List AttributeType) (v w : AttributeValue) :
        L.Alike (subTest c.id g [] types [v, w]) (subTest c.id g [] types [v, w]) :=
      alike_subTest .nil [v, w]
    cases c with
    | _ =>
      simp only [any_eq_seek, all_eq_seek]
      exact (alike_seek (fun v => alike_seek (htest _ v) _) _).ofBool
  · exact L.alike_fail _

theorem alike_combinator (h : List.Forall₂ L.AlikeOperand xs ys) (c : Combinator) :
    L.Alike (c.run xs) (c.run ys) := by
  rcases h with _ | ⟨hfirst, hrest⟩
  · exact L.alike_fail _
  · rename_i x y xs ys
    obtain ⟨s, eval⟩ := x
    obtain ⟨s', eval'⟩ := y
    obtain rfl : s = s' := hfirst.static
    obtain ⟨d, value?⟩ := s
    unfold Combinator.run
    rcases value? with _ | (_ | _ | (g | _)) <;> try exact L.alike_fail _
    cases c with
    | anyOf | allOf | map => exact alike_runOneBag hrest _
    | anyOfAny => exact alike_runEveryCombination hrest _
    | allOfAny | anyOfAll | allOfAll => exact alike_runTwoBags hrest _

end Combinator

/-- Calls whose operands are alike, one by one, are alike. -/
theorem alike_run {f : Function} {xs ys : List Operand} (h : List.Forall₂ L.AlikeOperand xs ys)
    (types : List AttributeType) (given : List AttributeValue) :
    L.Alike (f.run xs types given) (f.run ys types given) := by
  cases f with
  | firstOrder g => exact alike_firstOrder h types given
  | combinator c => exact alike_combinator h c

end Likeness

end Xacml
