/-
The order of a bag. A combinator whose arguments are evaluated again, with the elements of bags in
another order, answers the same boolean or a bag of the same elements, or fails again. There is one
exception, since a search ends with the first failure as well as with the first answer that settles
it: if the function fails on some combination of elements while the other combinations settle the
answer, then whether the call fails is a matter of order. It never answers with the other boolean.
-/
import Mathlib.Data.List.Perm.Basic
import Xacml.Proofs.Bag.Multiset
import Xacml.Proofs.Combinator.Answered
import Xacml.Proofs.Typing.Expr

namespace Xacml

open Eval
open Value (combinations)

/-! ## Values and results up to order -/

/-- The same value, but for the order of the elements of a bag. -/
inductive Value.SameUpToOrder : Value → Value → Prop
  | same (v : Value) : SameUpToOrder v v
  | bag {a b : Bag} : a.element = b.element → a.values.Perm b.values →
      SameUpToOrder (.bag a) (.bag b)

/-- The same value, but for the order of the elements of a bag, or failures. -/
inductive SameOutcome : Except Failure Value → Except Failure Value → Prop
  | answered {v w : Value} : v.SameUpToOrder w → SameOutcome (.ok v) (.ok w)
  | failed (e e' : Failure) : SameOutcome (.error e) (.error e')

namespace Value

variable {v w : Value} {ws ws' : List Value}

theorem SameUpToOrder.contributed (h : v.SameUpToOrder w) : v.contributed.Perm w.contributed := by
  cases h with
  | same => exact .refl _
  | bag _ h => exact h

/-- The combinations are the same but for their order. -/
theorem perm_combinations (h : List.Forall₂ SameUpToOrder ws ws') :
    (combinations ws).Perm (combinations ws') := by
  induction h with
  | nil => exact .refl _
  | cons hw _ ih =>
    exact (hw.contributed.flatMap_right _).trans (List.Perm.flatMap_left _ fun v _ => ih.map _)

end Value

/-! ## Answers -/

/-- A row that is all `d` settles that the answer is `d`, and an element that is not in each row
that it is not. -/
def SettledRows (d : Bool) (g : FirstOrderFunction) (ws : List Value) (b : Bool) : Prop :=
  ∃ left right : Bag, ws = [.bag left, .bag right] ∧
    (b = d ∧ (∃ v ∈ left.values, ∀ w ∈ right.values, g.on [v, w] = .ok (.ofBool d)) ∨
      b = (!d) ∧ ∀ v ∈ left.values, ∃ w ∈ right.values, g.on [v, w] = .ok (.ofBool (!d)))

/-- Some combinations settle that the answer is `b`, whatever the others are. -/
def Combinator.Settled (c : Combinator) (g : FirstOrderFunction) (ws : List Value) (b : Bool) :
    Prop :=
  match c with
  | .anyOf | .anyOfAny => b = true ∧ ∃ vs ∈ combinations ws, g.on vs = .ok (.ofBool true)
  | .allOf | .allOfAll => b = false ∧ ∃ vs ∈ combinations ws, g.on vs = .ok (.ofBool false)
  | .allOfAny => SettledRows false g ws b
  | .anyOfAll => SettledRows true g ws b
  | .map => False

/-- The function fails on some combination, and others settle that the answer is `b`. -/
def Combinator.Torn (c : Combinator) (g : FirstOrderFunction) (ws : List Value) (b : Bool) : Prop :=
  (∃ vs ∈ combinations ws, ∃ e, g.on vs = .error e) ∧ c.Settled g ws b

/-- The outcome is the same, or one is a failure where the other is a boolean that is excepted. -/
inductive SameUnless (excepted : Bool → Prop) : Except Failure Value → Except Failure Value → Prop
  | same {r r' : Except Failure Value} : SameOutcome r r' → SameUnless excepted r r'
  | left (e : Failure) (b : Bool) : excepted b → SameUnless excepted (.error e) (.ok (.ofBool b))
  | right (b : Bool) (e : Failure) : excepted b → SameUnless excepted (.ok (.ofBool b)) (.error e)

theorem SameUnless.imp {excepted excepted' : Bool → Prop} {r r' : Except Failure Value}
    (h : SameUnless excepted r r') (himp : ∀ b, excepted b → excepted' b) :
    SameUnless excepted' r r' := by
  cases h with
  | same h => exact .same h
  | left e b h => exact .left e b (himp b h)
  | right b e h => exact .right b e (himp b h)

/-- Bags that two evaluations answer with are equal. -/
theorem SameUnless.same_bags {excepted : Bool → Prop} {a b : Bag}
    (h : SameUnless excepted (.ok (.bag a)) (.ok (.bag b))) : a.same b = true := by
  obtain ⟨⟨_ | ⟨ht, hperm⟩⟩⟩ := h
  · exact Bag.same_of_perm rfl (.refl _)
  · exact Bag.same_of_perm ht hperm

section Answers

variable {excepted : Bool → Prop} {g : FirstOrderFunction} {ws ws' : List Value}
  {r r' : Except Failure Value} {d : Bool}

theorem Agree.ofBool {s s' : Except Failure Bool} (h : Agree excepted s s') :
    SameUnless excepted (s.map .ofBool) (s'.map .ofBool) := by
  cases h with
  | same b => exact .same (.answered (.same _))
  | failed e e' => exact .same (.failed e e')
  | left e b h => exact .left e b h
  | right b e h => exact .right b e h

theorem SearchesCombinations.same_unless (hws : List.Forall₂ Value.SameUpToOrder ws ws')
    (h : SearchesCombinations d g ws r) (h' : SearchesCombinations d g ws' r') :
    SameUnless (fun b => (∃ vs ∈ combinations ws, ∃ e, g.on vs = .error e) ∧
      b = d ∧ ∃ vs ∈ combinations ws, g.on vs = .ok (.ofBool d)) r r' := by
  obtain ⟨s, rfl, hs⟩ := h
  obtain ⟨s', rfl, hs'⟩ := h'
  have hmem (vs : List AttributeValue) : vs ∈ combinations ws' ↔ vs ∈ combinations ws :=
    (Value.perm_combinations hws).mem_iff.symm
  simp only [hmem] at hs'
  exact (hs.agree hs').ofBool

theorem SearchesBags.same_unless (hws : List.Forall₂ Value.SameUpToOrder ws ws')
    (h : SearchesBags d g ws r) (h' : SearchesBags d g ws' r') :
    SameUnless (fun b => (∃ vs ∈ combinations ws, ∃ e, g.on vs = .error e) ∧
      SettledRows d g ws b) r r' := by
  obtain ⟨a, b, s, rfl, rfl, hs⟩ := h
  obtain ⟨a', b', s', rfl, rfl, hs'⟩ := h'
  obtain _ | ⟨ha, _ | ⟨hb, -⟩⟩ := hws
  have hleft (v : AttributeValue) : v ∈ a'.values ↔ v ∈ a.values := ha.contributed.mem_iff.symm
  have hright (w : AttributeValue) : w ∈ b'.values ↔ w ∈ b.values := hb.contributed.mem_iff.symm
  simp only [hleft, hright] at hs'
  refine ((hs.agree hs').imp ?_).ofBool
  rintro c ⟨⟨v, hv, w, hw, e, he⟩, hsettled⟩
  exact ⟨⟨[v, w], mem_combinations_pair.2 ⟨v, hv, w, hw, rfl⟩, e, he⟩, a, b, rfl, hsettled⟩

theorem Collects.same_outcome {t : AttributeType} {on : List AttributeValue → Except Failure Value}
    {calls calls' : List (List AttributeValue)} (hcalls : calls.Perm calls')
    (h : Collects t on calls r) (h' : Collects t on calls' r') : SameOutcome r r' := by
  have hfails {calls : List (List AttributeValue)} {bs : List AttributeValue}
      (hbs : List.Forall₂ (fun vs b => on vs = .ok (.single b)) calls bs) {vs : List AttributeValue}
      (hvs : vs ∈ calls) {e : Failure} : on vs ≠ .error e := by
    obtain ⟨i, hi, rfl⟩ := List.getElem_of_mem hvs
    exact fun he => nomatch he.symm.trans (hbs.get hi (hbs.length_eq ▸ hi))
  cases h with
  | @collected bs _ hbs =>
    cases h' with
    | @collected bs' _ hbs' =>
      -- each call has one answer, so that the answers are ordered as the calls are
      obtain ⟨bs'', hbs'', hperm⟩ := List.perm_comp_forall₂ hcalls hbs'
      have hunique : Relator.RightUnique fun vs b => on vs = .ok (.single b) := by
        intro vs b b' hb hb'
        cases hb.symm.trans hb'
        rfl
      obtain rfl : bs'' = bs := List.right_unique_forall₂' hunique hbs'' hbs
      refine .answered (.bag ?_ ?_)
      · rw [Bag.element_ofList, Bag.element_ofList]
      · rwa [Bag.values_ofList, Bag.values_ofList]
    | failed hvs he => exact absurd he (hfails hbs (hcalls.mem_iff.2 hvs))
  | @failed vs e e' hvs he =>
    cases h' with
    | collected _ hbs' => exact absurd he (hfails hbs' (hcalls.mem_iff.1 hvs))
    | failed _ _ => exact .failed _ _

/-- Answers to values that are the same up to order are the same, unless the function fails on some
combination while others settle the answer. -/
theorem Combinator.Answered.same_unless {c : Combinator}
    (hws : List.Forall₂ Value.SameUpToOrder ws ws') (h : c.Answered g ws r)
    (h' : c.Answered g ws' r') : SameUnless (c.Torn g ws) r r' := by
  cases c with
  | anyOf | anyOfAny | allOf | allOfAll => exact SearchesCombinations.same_unless hws h h'
  | allOfAny | anyOfAll => exact SearchesBags.same_unless hws h h'
  | map =>
    obtain ⟨t, ht, h⟩ := h
    obtain ⟨t', ht', h'⟩ := h'
    cases ht.symm.trans ht'
    exact .same (h.same_outcome (Value.perm_combinations hws) h')

end Answers

/-! ## Calls -/

/-- Operands that have the same outcome, but for the order of the elements of a bag. -/
def Operand.Reordered (x y : Operand) : Prop := SameOutcome x.eval.answer y.eval.answer

section Calls

variable {xs ys : List Operand}

/-- Either all of the operands answer, with values that are the same up to order, or some fail. -/
theorem answers_or_failing (h : List.Forall₂ Operand.Reordered xs ys) :
    (∃ ws ws', List.Forall₂ Operand.Answers xs ws ∧ List.Forall₂ Operand.Answers ys ws' ∧
      List.Forall₂ Value.SameUpToOrder ws ws') ∨
      (∃ x ∈ xs, x.Failing) ∧ ∃ y ∈ ys, y.Failing := by
  induction h with
  | nil => exact .inl ⟨[], [], .nil, .nil, .nil⟩
  | @cons x y xs ys hxy _ ih =>
    unfold Operand.Reordered at hxy
    generalize hx : x.eval.answer = r, hy : y.eval.answer = r' at hxy
    cases hxy with
    | failed e e' => exact .inr ⟨⟨x, List.mem_cons_self, e, hx⟩, y, List.mem_cons_self, e', hy⟩
    | @answered v w hvw =>
      rcases ih with ⟨ws, ws', hws, hws', hsame⟩ | ⟨⟨x', hx', hf⟩, y', hy', hf'⟩
      · exact .inl ⟨v :: ws, w :: ws', .cons hx hws, .cons hy hws', .cons hvw hsame⟩
      · exact .inr ⟨⟨x', List.mem_cons_of_mem _ hx', hf⟩, y', List.mem_cons_of_mem _ hy', hf'⟩

theorem Combinator.Yields.same_unless {c : Combinator} {g : FirstOrderFunction}
    {r r' : Except Failure Value} (hxy : List.Forall₂ Operand.Reordered xs ys)
    (h : c.Yields g xs r) (h' : c.Yields g ys r') :
    SameUnless (fun b => ∃ ws, List.Forall₂ Operand.Answers xs ws ∧ c.Torn g ws b) r r' := by
  rcases answers_or_failing hxy with ⟨ws, ws', hws, hws', hsame⟩ | ⟨hf, hf'⟩
  · refine ((h.answered ws hws).same_unless hsame (h'.answered ws' hws')).imp fun b hb => ?_
    exact ⟨ws, hws, hb⟩
  · obtain ⟨e, rfl⟩ := h.failing hf
    obtain ⟨e', rfl⟩ := h'.failing hf'
    exact .same (.failed e e')

end Calls

/-! ## Trees -/

namespace Expr

variable {ctx ctx' : Option Context} {f : Expr} {es es' : List Expr} {c : Combinator}
  {g : FirstOrderFunction}

/-- Expressions that have the same outcome, each in its context, but for the order of the elements
of a bag. -/
def Reordered (ctx ctx' : Option Context) (e e' : Expr) : Prop :=
  SameOutcome (e.answer ctx) (e'.answer ctx')

/-- The arguments answer, and the function fails on some combination of their values while others
settle that the answer is `b`. -/
def Torn (ctx : Option Context) (c : Combinator) (g : FirstOrderFunction) (es : List Expr)
    (b : Bool) : Prop :=
  ∃ ws, List.Forall₂ (fun e w => e.answer ctx = .ok w) es ws ∧ c.Torn g ws b

theorem Built.reliable {e : Expr} (h : e.Built (Leaf.Typed ctx)) : (e.operand ctx).Reliable :=
  reliable_of_typed fun w hw => (settles_iff.1 (h.eval_ensures (.empty 0)).1).1 w hw

/-- The function that a call of a combinator applies, and what the call yields. -/
theorem Built.yields (h : (Expr.apply (.combinator c) (f :: es)).Built (Leaf.Typed ctx))
    (hf : f.value? = some (.function (.firstOrder g))) :
    c.Yields g (es.map (operand ctx)) ((Expr.apply (.combinator c) (f :: es)).answer ctx) := by
  obtain _ | _ | _ | ⟨_, hbuilt, hb⟩ := h
  rw [List.forall_mem_cons] at hbuilt
  have hknown : f.eval ctx = .ok _ ∧ Value.Standard _ := hbuilt.1.known hf
  rw [answer, eval_apply, List.map_cons]
  refine Combinator.run_yields hf (Library.mem_standard_firstOrder.1 hknown.2)
    (List.forall_mem_map.2 fun e he => (hbuilt.2 e he).reliable) ?_
  rw [List.map_cons, List.map_map]
  exact hb

/-- A combinator whose arguments are evaluated again, with the elements of bags in another order,
has the same outcome, unless its function fails on some combination of elements while others settle
the answer. -/
theorem answer_same_unless (hf : f.value? = some (.function (.firstOrder g)))
    (h : (Expr.apply (.combinator c) (f :: es)).Built (Leaf.Typed ctx))
    (h' : (Expr.apply (.combinator c) (f :: es')).Built (Leaf.Typed ctx'))
    (hes : List.Forall₂ (Reordered ctx ctx') es es') :
    SameUnless (Torn ctx c g es) ((Expr.apply (.combinator c) (f :: es)).answer ctx)
      ((Expr.apply (.combinator c) (f :: es')).answer ctx') := by
  have hoperands : List.Forall₂ Operand.Reordered (es.map (operand ctx)) (es'.map (operand ctx')) := by
    rw [List.forall₂_map_left_iff, List.forall₂_map_right_iff]
    exact hes
  refine ((h.yields hf).same_unless hoperands (h'.yields hf)).imp ?_
  rintro b ⟨ws, hws, hb⟩
  rw [List.forall₂_map_left_iff] at hws
  exact ⟨ws, hws, hb⟩

/-- A call of a combinator with one bag, a constant. -/
def overBag (c : Combinator) (g : FirstOrderFunction) (b : Bag) : Expr :=
  .apply (.combinator c) [.constant (.function (.firstOrder g)), .constant (.bag b)]

theorem built_overBag {b : Bag} (hg : g ∈ Library.logic)
    (hbind : c.bind [⟨.function, some (.function (.firstOrder g))⟩, ⟨.bag b.element, some (.bag b)⟩] =
      .ok ()) : (overBag c g b).Built (Leaf.Typed ctx) := by
  refine .apply (Library.mem_standard_combinator c) ?_ hbind
  rw [List.forall_mem_cons, List.forall_mem_singleton]
  exact ⟨.constant (Library.mem_standard_of_logic hg), .constant trivial⟩

theorem reordered_of_perm {t : AttributeType} {vs vs' : List AttributeValue} (h : vs.Perm vs')
    (ht : ∀ v ∈ vs, v.type = t) (ht' : ∀ v ∈ vs', v.type = t) :
    Reordered ctx ctx' (.constant (.bag (.ofList t vs ht))) (.constant (.bag (.ofList t vs' ht'))) := by
  refine .answered (.bag ?_ ?_)
  · rw [Bag.element_ofList, Bag.element_ofList]
  · rwa [Bag.values_ofList, Bag.values_ofList]

def booleans (bs : List Bool) : Bag :=
  .ofList .boolean (bs.map .boolean) (List.forall_mem_map.2 fun _ _ => rfl)

def integers (ns : List Int64) : Bag :=
  .ofList .integer (ns.map .integer) (List.forall_mem_map.2 fun _ _ => rfl)

/-- Whether one of the booleans is false. -/
def anyFalse (bs : List Bool) : Expr := overBag .anyOf Library.negation (booleans bs)

/-- Whether one of the counts is reached with no arguments at all. -/
def anyReached (counts : List Int64) : Expr :=
  overBag .anyOf (Library.connective .nOf "n-of" [.integer, .boolean]) (integers counts)

/-- The order of the elements of bags does not matter to a call of a combinator, from whichever
faithful stores it is evaluated: it fails again, or answers the same boolean or an equal bag. The
exception is a call whose function fails on some combination of elements while others settle that
the answer is `b`; then one evaluation may fail where another answers `b`. -/
theorem same_outcome_unless_torn (hf : f.value? = some (.function (.firstOrder g)))
    (h : (Expr.apply (.combinator c) (f :: es)).Built (Leaf.Typed ctx))
    (h' : (Expr.apply (.combinator c) (f :: es')).Built (Leaf.Typed ctx'))
    (hes : List.Forall₂ (Reordered ctx ctx') es es') {cache cache' : Pattern.Cache}
    (hc : cache.Faithful) (hc' : cache'.Faithful) {r r' : Except Failure Value}
    (hr : ((Expr.apply (.combinator c) (f :: es)).eval ctx cache).result = r)
    (hr' : ((Expr.apply (.combinator c) (f :: es')).eval ctx' cache').result = r') :
    SameUnless (Torn ctx c g es) r r' ∧
      ∀ a b, r = .ok (.bag a) → r' = .ok (.bag b) → a.same b = true := by
  have hsame : SameUnless (Torn ctx c g es) r r' := by
    rw [← hr, ← hr', (steady _ _).result_eq hc, (steady _ _).result_eq hc']
    exact answer_same_unless hf h h' hes
  refine ⟨hsame, ?_⟩
  rintro a b rfl rfl
  exact hsame.same_bags

/-- Two booleans, once in either order. -/
theorem same_outcome_negation :
    (anyFalse [true, false]).Built (Leaf.Typed none) ∧
    (anyFalse [false, true]).Built (Leaf.Typed none) ∧
    Reordered none none (.constant (.bag (booleans [true, false])))
      (.constant (.bag (booleans [false, true]))) ∧
    ((anyFalse [true, false]).eval none (.empty 0)).result = .ok (.ofBool true) ∧
    SameUnless (Torn none .anyOf Library.negation [.constant (.bag (booleans [true, false]))])
      ((anyFalse [true, false]).eval none (.empty 0)).result
      ((anyFalse [false, true]).eval none (.empty 0)).result := by
  have hmem : Library.negation ∈ Library.logic := by simp [Library.logic]
  have hb : (anyFalse [true, false]).Built (Leaf.Typed none) := built_overBag hmem rfl
  have hb' : (anyFalse [false, true]).Built (Leaf.Typed none) := built_overBag hmem rfl
  have hswap : Reordered none none (.constant (.bag (booleans [true, false])))
      (.constant (.bag (booleans [false, true]))) := reordered_of_perm (.swap _ _ _) _ _
  have hempty := Pattern.Cache.faithful_empty 0
  exact ⟨hb, hb', hswap, rfl,
    (same_outcome_unless_torn rfl hb hb' (.cons hswap .nil) hempty hempty rfl rfl).1⟩

/-- With a negative count in the bag, it is a matter of order whether there is an answer. -/
theorem order_decides_nOf :
    (anyReached [-1, 0]).Built (Leaf.Typed none) ∧ (anyReached [0, -1]).Built (Leaf.Typed none) ∧
    Reordered none none (.constant (.bag (integers [-1, 0]))) (.constant (.bag (integers [0, -1]))) ∧
    ¬ SameOutcome ((anyReached [-1, 0]).eval none (.empty 0)).result
      ((anyReached [0, -1]).eval none (.empty 0)).result := by
  have hmem : Library.connective .nOf "n-of" [.integer, .boolean] ∈ Library.logic := by
    simp [Library.logic]
  have hfails : ∃ e, ((anyReached [-1, 0]).eval none (.empty 0)).result = .error e := ⟨_, rfl⟩
  have hanswers : ((anyReached [0, -1]).eval none (.empty 0)).result = .ok (.ofBool true) := rfl
  refine ⟨built_overBag hmem rfl, built_overBag hmem rfl,
    reordered_of_perm (.swap _ _ _) _ _, ?_⟩
  obtain ⟨e, he⟩ := hfails
  rw [he, hanswers]
  rintro ⟨⟩

end Expr

end Xacml
