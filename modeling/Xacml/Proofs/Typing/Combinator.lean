/-
Calls of combinators. A combinator evaluates its arguments before it calls its function, so what it
calls the function with is of the types that the check bound the function to: bound arguments are
constants and cannot fail, a bag contributes its elements, and with one bag among the arguments
every element has the one type. A call therefore fails only with the failure of an argument, named
by its position, or with what the function raises.
-/
import Xacml.Proofs.Combinator.Odometer
import Xacml.Proofs.Typing.Binding
import Xacml.Proofs.Typing.Call

namespace Xacml

open Eval

/-! ## Calling the function -/

section SubCall

variable {id : String} {g : FirstOrderFunction} {types : List AttributeType}
  {given : List AttributeValue}

/-- Constants do not fail, so a call of the function fails only with what the function raises. -/
theorem subCall_ensures (bound : List Operand) (hg : g ∈ Library.firstOrder) (hx : ∀ x ∈ bound, x.Honest)
    (hk : ∀ x ∈ bound, x.value?.isSome = true)
    (hb : g.bind (bound.map (·.toStatic)) types = .ok ())
    (ht : given.map AttributeValue.type = types) :
    (subCall g bound types given).Ensures Event.Sound (·.HasType g.returns) g.Raises := by
  subst ht
  refine Ensures.afterNote ((FirstOrder.run_ensures hg given hx hb).weaken ?_) trivial
  rintro e (⟨i, x, cause, hi, hf, rfl⟩ | h)
  · -- the operands are bound, so their values are known
    have hm := List.mem_of_getElem? hi
    obtain ⟨v, hv⟩ := Option.isSome_iff_exists.1 (hk x hm)
    exact absurd hf ((hx x hm).not_fails hv cause)
  · exact h

theorem subTest_ensures (bound : List Operand) (hg : g ∈ Library.firstOrder) (hr : g.returns = .boolean)
    (hx : ∀ x ∈ bound, x.Honest) (hk : ∀ x ∈ bound, x.value?.isSome = true)
    (hb : g.bind (bound.map (·.toStatic)) types = .ok ())
    (ht : given.map AttributeValue.type = types) :
    (subTest id g bound types given).Ensures Event.Sound (fun _ => True) g.Raises := by
  refine (subCall_ensures bound hg hx hk hb ht).bind fun v hv => ?_
  rw [hr] at hv
  obtain ⟨b, rfl⟩ := hv.eq_ofBool
  exact ensures_ok trivial

theorem subElement_ensures (bound : List Operand) (hg : g ∈ Library.firstOrder) {t : AttributeType}
    (hr : g.returns = .value t) (hx : ∀ x ∈ bound, x.Honest)
    (hk : ∀ x ∈ bound, x.value?.isSome = true)
    (hb : g.bind (bound.map (·.toStatic)) types = .ok ())
    (ht : given.map AttributeValue.type = types) :
    (do
      match ← subCall g bound types given with
      | .single v => Eval.ok v
      | other => Eval.fail (.of (.notSingle id other.datatype))).Ensures Event.Sound
        (fun v : AttributeValue => v.type = t) g.Raises := by
  refine (subCall_ensures bound hg hx hk hb ht).bind fun v hv => ?_
  rw [hr] at hv
  obtain ⟨a, rfl, ha⟩ := Value.hasType_value_iff.1 hv
  exact ensures_ok ha

end SubCall

/-- Answers of one type are collected in a bag of the type. -/
theorem collect_ensures {α : Type} {f : α → Eval AttributeValue} {as : List α} {t : AttributeType}
    {E : Event → Prop} {F : Failure → Prop}
    (h : ∀ a ∈ as, (f a).Ensures E (fun v => v.type = t) F) :
    (do
      let answers ← Eval.each f as
      return Value.bag (← Eval.done (Bag.checked t answers))).Ensures E (·.HasType (.bag t)) F := by
  refine (ensures_each h).bind fun answers ha => ?_
  rw [Bag.checked_of_types ha]
  refine (ensures_ok (P := (· = Bag.ofList t answers ha)) rfl).bind fun b hb => ensures_pure ?_
  rw [hb]
  exact Library.hasType_ofList ha

/-! ## Slots -/

/-- An evaluated argument is what its datatype declares. -/
def Slot.Fits (s : Slot) (d : Datatype) : Prop :=
  match s with
  | .value v => d = .value v.type
  | .bag b => d = .bag b.element

theorem ArgumentFails.append {function : String} {index : Nat} {l₁ l₂ : List Operand} {e : Failure}
    (h : ArgumentFails function (index + l₁.length) l₂ e) :
    ArgumentFails function index (l₁ ++ l₂) e := by
  obtain ⟨i, x, cause, hi, hc, rfl⟩ := h
  refine ⟨l₁.length + i, x, cause, ?_, hc, by congr 1; omega⟩
  rw [List.getElem?_append_right (Nat.le_add_right _ _), Nat.add_sub_cancel_left, hi]

section Slots

variable {operands : List Operand}

theorem evaluateSlots_ensures (id : String) (index : Nat) (hx : ∀ x ∈ operands, x.Honest)
    (hd : ∀ x ∈ operands, x.datatype ≠ .function) :
    (evaluateSlots id index operands).Ensures Event.Sound
      (fun slots => List.Forall₂ (fun s x => s.Fits x.datatype) slots operands)
      (ArgumentFails id index operands) := by
  induction operands generalizing index with
  | nil => exact ensures_ok .nil
  | cons x rest ih =>
    have hrest := (ih (index + 1) (fun y hy => hx y (List.mem_cons_of_mem _ hy))
      (fun y hy => hd y (List.mem_cons_of_mem _ hy))).weaken
        fun _ => ArgumentFails.tail (x := x)
    rw [evaluateSlots]
    refine ((hx x List.mem_cons_self).ensures.mapFailure fun _ => ArgumentFails.head).bind
      fun v hv => ?_
    have hslot : ∀ s : Slot, s.Fits x.datatype →
        (evaluateSlots id (index + 1) rest >>= fun others => pure (s :: others)).Ensures Event.Sound
          (fun slots => List.Forall₂ (fun s x => s.Fits x.datatype) slots (x :: rest))
          (ArgumentFails id index (x :: rest)) :=
      fun s hs => hrest.bind fun others ho => ensures_pure (.cons hs ho)
    cases hdt : x.datatype with
    | function => exact absurd hdt (hd x List.mem_cons_self)
    | value t =>
      rw [hdt] at hv
      obtain ⟨a, rfl, rfl⟩ := Value.hasType_value_iff.1 hv
      exact (ensures_ok (P := fun s => s = .value a) rfl).bind fun s hs =>
        hslot s (by rw [hs]; exact hdt)
    | bag t =>
      rw [hdt] at hv
      obtain ⟨b, rfl, rfl⟩ := Value.hasType_bag_iff.1 hv
      exact (ensures_ok (P := fun s => s = .bag b) rfl).bind fun s hs =>
        hslot s (by rw [hs]; exact hdt)

variable {slots : List Slot}

/-- With no bag among the arguments there are no elements. -/
theorem elements_eq_nil (hs : List.Forall₂ (fun s (x : Operand) => s.Fits x.datatype) slots operands)
    (h : operands.countP (·.datatype.isBag) = 0) : Slot.elements slots = [] := by
  induction hs with
  | nil => rfl
  | @cons s x slots rest hs _ ih =>
    rw [List.countP_cons] at h
    cases s with
    | value v => exact ih (by omega)
    | bag b =>
      have hx : x.datatype = .bag b.element := hs
      rw [hx] at h
      simp [Datatype.isBag] at h

/-- With one bag among the arguments, the elements have the type that it declares. -/
theorem elements_of_one_bag
    (hs : List.Forall₂ (fun s (x : Operand) => s.Fits x.datatype) slots operands)
    (h : operands.countP (·.datatype.isBag) = 1) :
    ∀ e ∈ Slot.elements slots, ∀ x ∈ operands, ∀ t, x.datatype = .bag t → e.type = t := by
  induction hs with
  | nil => simp at h
  | @cons s x slots rest hs hrest ih =>
    rw [List.countP_cons] at h
    intro e he y hy t ht
    cases s with
    | value v =>
      -- the one bag is further on
      have hx : x.datatype = .value v.type := hs
      rw [hx] at h
      rcases List.mem_cons.1 hy with rfl | hy
      · rw [hx] at ht; cases ht
      · exact ih (by simpa [Datatype.isBag] using h) e he y hy t ht
    | bag b =>
      -- this is the one bag: there is none further on, so all elements are its own
      have hx : x.datatype = .bag b.element := hs
      rw [hx] at h
      have hnone : rest.countP (·.datatype.isBag) = 0 := by simpa [Datatype.isBag] using h
      have he : e ∈ b.values ++ Slot.elements slots := he
      rw [elements_eq_nil hrest hnone, List.append_nil] at he
      rcases List.mem_cons.1 hy with rfl | hy
      · rw [hx] at ht
        cases ht
        exact Bag.type_of_mem he
      · have := List.countP_eq_zero.1 hnone y hy
        rw [ht] at this
        exact absurd rfl this

/-- An element in the place of the bag makes a list of the types that the function is bound to. -/
theorem types_fill (hs : List.Forall₂ (fun s (x : Operand) => s.Fits x.datatype) slots operands)
    {e : AttributeValue} (he : ∀ x ∈ operands, ∀ t, x.datatype = .bag t → e.type = t) :
    (Slot.fill slots e).map AttributeValue.type = operands.filterMap (·.toStatic.element?) := by
  induction hs with
  | nil => rfl
  | @cons s x slots rest hs _ ih =>
    have hrest := ih fun y hy => he y (List.mem_cons_of_mem _ hy)
    cases s with
    | value v =>
      have hx : x.datatype = .value v.type := hs
      have helem : x.toStatic.element? = some v.type := by rw [Static.element?, hx]
      rw [List.filterMap_cons, helem, ← hrest]
      rfl
    | bag b =>
      have hx : x.datatype = .bag b.element := hs
      have helem : x.toStatic.element? = some e.type := by
        rw [Static.element?, hx, he x List.mem_cons_self _ hx]
      rw [List.filterMap_cons, helem, ← hrest]
      rfl

end Slots

/-! ## Domains -/

section Domains

variable {operands : List Operand}

/-- What an argument contributes are values of the type that it was bound with. -/
def DomainFits (domain : List AttributeValue) (x : Operand) : Prop :=
  ∃ t, x.toStatic.element? = some t ∧ ∀ v ∈ domain, v.type = t

theorem evaluateDomains_ensures (id : String) (index : Nat) (hx : ∀ x ∈ operands, x.Honest)
    (hd : ∀ x ∈ operands, x.datatype ≠ .function) :
    (evaluateDomains id index operands).Ensures Event.Sound
      (fun domains => List.Forall₂ DomainFits domains operands)
      (ArgumentFails id index operands) := by
  induction operands generalizing index with
  | nil => exact ensures_ok .nil
  | cons x rest ih =>
    have hrest := (ih (index + 1) (fun y hy => hx y (List.mem_cons_of_mem _ hy))
      (fun y hy => hd y (List.mem_cons_of_mem _ hy))).weaken
        fun _ => ArgumentFails.tail (x := x)
    rw [evaluateDomains]
    refine ((hx x List.mem_cons_self).ensures.mapFailure fun _ => ArgumentFails.head).bind
      fun v hv => ?_
    have hdomain : ∀ domain, DomainFits domain x →
        (evaluateDomains id (index + 1) rest >>= fun others => pure (domain :: others)).Ensures
          Event.Sound (fun domains => List.Forall₂ DomainFits domains (x :: rest))
          (ArgumentFails id index (x :: rest)) :=
      fun domain h => hrest.bind fun others ho => ensures_pure (.cons h ho)
    cases hdt : x.datatype with
    | function => exact absurd hdt (hd x List.mem_cons_self)
    | value t =>
      rw [hdt] at hv
      obtain ⟨a, rfl, ha⟩ := Value.hasType_value_iff.1 hv
      refine (ensures_ok (P := fun d => d = [a]) rfl).bind fun d hd => hdomain d ?_
      subst hd
      exact ⟨t, by rw [Static.element?, hdt], List.forall_mem_singleton.2 ha⟩
    | bag t =>
      rw [hdt] at hv
      obtain ⟨b, rfl, rfl⟩ := Value.hasType_bag_iff.1 hv
      refine (ensures_ok (P := fun d => d = b.values) rfl).bind fun d hd => hdomain d ?_
      subst hd
      exact ⟨b.element, by rw [Static.element?, hdt], fun _ => Bag.type_of_mem⟩

/-- One value of each domain makes a list of the types that the function is bound to. -/
theorem types_combination {domains : List (List AttributeValue)} {values : List AttributeValue}
    (hv : List.Forall₂ (· ∈ ·) values domains) (hd : List.Forall₂ DomainFits domains operands) :
    values.map AttributeValue.type = operands.filterMap (·.toStatic.element?) := by
  induction hv generalizing operands with
  | nil => cases hd; rfl
  | cons hv _ ih =>
    cases hd with
    | cons hx hrest =>
      obtain ⟨t, ht, htype⟩ := hx
      rw [List.filterMap_cons, ht, List.map_cons, htype _ hv, ih hrest]

end Domains

/-! ## Calls -/

section Call

variable {c : Combinator} {g : FirstOrderFunction} {operands : List Operand}

/-- The failures of a call of a combinator; the position of its function is the first. -/
def Combinator.Fails (c : Combinator) (g : FirstOrderFunction) (operands : List Operand)
    (e : Failure) : Prop := ArgumentFails c.id 1 operands e ∨ g.Raises e

/-- Arguments that are bound are constants and no bags. -/
theorem mem_takeWhile_isBindable {x : Operand}
    (h : x ∈ operands.takeWhile (·.toStatic.isBindable)) :
    x.datatype.isBag = false ∧ x.value?.isSome = true := by
  have := List.mem_takeWhile_imp h
  rwa [Static.isBindable, Bool.and_eq_true, Bool.not_eq_true'] at this

/-- The one bag is among the arguments that are not bound. -/
theorem countP_dropWhile_isBindable :
    (operands.dropWhile (·.toStatic.isBindable)).countP (·.datatype.isBag) =
      operands.countP (·.datatype.isBag) := by
  have hbound : (operands.takeWhile (·.toStatic.isBindable)).countP (·.datatype.isBag) = 0 :=
    List.countP_eq_zero.2 fun x hx => by rw [(mem_takeWhile_isBindable hx).1]; exact Bool.false_ne_true
  conv_rhs => rw [← List.takeWhile_append_dropWhile (p := (·.toStatic.isBindable)) (l := operands),
    List.countP_append, hbound, Nat.zero_add]

theorem runOneBag_ensures (hg : g ∈ Library.firstOrder) (hx : ∀ x ∈ operands, x.Honest)
    (hd : ∀ x ∈ operands, x.datatype ≠ .function)
    (hone : operands.countP (·.datatype.isBag) = 1)
    (hb : g.bind ((operands.takeWhile (·.toStatic.isBindable)).map (·.toStatic))
      ((operands.dropWhile (·.toStatic.isBindable)).filterMap (·.toStatic.element?)) = .ok ())
    (hu : c.UsesReturns g.returns) :
    (runOneBag c g operands).Ensures Event.Sound
      (·.HasType (Expr.applicationType (.combinator c) (some (.function (.firstOrder g)))))
      (c.Fails g operands) := by
  unfold runOneBag
  have happ := List.takeWhile_append_dropWhile (p := (·.toStatic.isBindable)) (l := operands)
  have hbound := fun x (h : x ∈ operands.takeWhile (·.toStatic.isBindable)) =>
    mem_takeWhile_isBindable h
  have hruntime := countP_dropWhile_isBindable.trans hone
  generalize operands.takeWhile (·.toStatic.isBindable) = bound at *
  generalize operands.dropWhile (·.toStatic.isBindable) = runtime at *
  subst happ
  have hslots := evaluateSlots_ensures c.id (1 + bound.length)
    (fun x h => hx x (List.mem_append_right _ h)) fun x h => hd x (List.mem_append_right _ h)
  refine (hslots.weaken fun e h => .inl h.append).bind fun slots hs => ?_
  -- every element stands for the one bag, so each call is of the types that were bound
  have htypes := fun e he => types_fill hs (elements_of_one_bag hs hruntime e he)
  have hk := fun x h => (hbound x h).2
  have hxb := fun x h => hx x (List.mem_append_left runtime h)
  have htest (hr : g.returns = .boolean) (e) (he : e ∈ Slot.elements slots) :
      (subTest c.id g bound _ (Slot.fill slots e)).Ensures Event.Sound (fun _ => True)
        (c.Fails g (bound ++ runtime)) :=
    (subTest_ensures bound hg hr hxb hk hb (htypes e he)).weaken fun _ => .inr
  cases c with
  | map =>
    obtain ⟨t, hu⟩ := hu
    have htype : Expr.applicationType (.combinator .map) (some (.function (.firstOrder g))) =
        .bag t := by rw [Expr.applicationType, hu]
    rw [htype, hu]
    exact collect_ensures fun e he =>
      (subElement_ensures bound hg hu hxb hk hb (htypes e he)).weaken fun _ => .inr
  | _ =>
    simp only [any_eq_seek, all_eq_seek]
    exact (ensures_seek (htest hu)).ofBool

theorem runEveryCombination_ensures (hg : g ∈ Library.firstOrder) (hr : g.returns = .boolean)
    (hx : ∀ x ∈ operands, x.Honest) (hd : ∀ x ∈ operands, x.datatype ≠ .function)
    (hb : g.bind [] (operands.filterMap (·.toStatic.element?)) = .ok ()) :
    (runEveryCombination c g operands).Ensures Event.Sound (·.HasType .boolean) (c.Fails g operands) := by
  rw [runEveryCombination_eq]
  refine ((evaluateDomains_ensures c.id 1 hx hd).weaken fun _ => .inl).bind fun domains hdomains => ?_
  refine (ensures_seek fun values hv => ?_).ofBool
  have htypes := types_combination (Odometer.mem_combinations.1 hv) hdomains
  exact (subTest_ensures [] hg hr (by simp) (by simp) hb htypes).weaken fun _ => .inr

theorem runTwoBags_ensures (hg : g ∈ Library.firstOrder) (hr : g.returns = .boolean)
    (hx : ∀ x ∈ operands, x.Honest) (hlen : operands.length = 2)
    (hbags : ∀ x ∈ operands, x.datatype.isBag = true)
    (hb : g.bind [] (operands.filterMap (·.toStatic.element?)) = .ok ()) :
    (runTwoBags c g operands).Ensures Event.Sound (·.HasType .boolean) (c.Fails g operands) := by
  obtain ⟨x, y, rfl⟩ := List.length_eq_two.1 hlen
  have hxx := hx x List.mem_cons_self
  have hxy := hx y (List.mem_cons_of_mem _ List.mem_cons_self)
  obtain ⟨t, ht⟩ := Datatype.isBag_iff.1 (hbags x List.mem_cons_self)
  obtain ⟨u, hu⟩ := Datatype.isBag_iff.1 (hbags y (List.mem_cons_of_mem _ List.mem_cons_self))
  unfold runTwoBags
  refine (hxx.ensures.mapFailure fun _ h => .inl (ArgumentFails.head h)).bind fun v hv => ?_
  refine (hxy.ensures.mapFailure fun _ h => .inl (ArgumentFails.head h).tail).bind fun w hw => ?_
  rw [ht] at hv
  rw [hu] at hw
  obtain ⟨a, rfl, hat⟩ := Value.hasType_bag_iff.1 hv
  obtain ⟨b, rfl, hbu⟩ := Value.hasType_bag_iff.1 hw
  have htest (v) (hv : v ∈ a.values) (w) (hw : w ∈ b.values) :
      (subTest c.id g [] ([x, y].filterMap (·.toStatic.element?)) [v, w]).Ensures Event.Sound
        (fun _ => True) (c.Fails g [x, y]) := by
    refine (subTest_ensures [] hg hr (by simp) (by simp) hb ?_).weaken fun _ => .inr
    simp [Static.element?, ht, hu, Bag.type_of_mem hv, Bag.type_of_mem hw, hat, hbu]
  cases c with
  | _ =>
    simp only [any_eq_seek, all_eq_seek]
    exact (ensures_seek fun v hv => ensures_seek (htest v hv)).ofBool

end Call

/-! ## Functions of either order -/

/-- What an application may raise itself, if the value of its first argument is known to be
`first`: what its function raises or, for a combinator, the function that it calls. -/
def Callable.Raises (f : Function) (first : Option Value) (e : Failure) : Prop :=
  match f with
  | .firstOrder g => FirstOrder.Raises g e
  | .combinator _ => ∃ g, first = some (.function (.firstOrder g)) ∧ FirstOrder.Raises g e

/-- The value of the first operand, if it is known. -/
def firstValue (operands : List Operand) : Option Value := operands.head?.bind (·.value?)

theorem Combinator.run_ensures {c : Combinator} {operands : List Operand}
    (hx : ∀ x ∈ operands, x.Honest) (hb : c.bind (operands.map (·.toStatic)) = .ok ()) :
    (c.run operands).Ensures Event.Sound
      (·.HasType (Expr.applicationType (.combinator c) (firstValue operands)))
      (fun e => ArgumentFails c.id 0 operands e ∨
        Callable.Raises (.combinator c) (firstValue operands) e) := by
  rcases operands with _ | ⟨⟨⟨d, value?⟩, eval⟩, operands⟩
  · unfold Combinator.bind at hb
    split at hb <;> contradiction
  rw [List.map_cons, bind_eq_ok_iff, List.length_map] at hb
  obtain ⟨hn, g, rfl, hu, hd, hbags, hg⟩ := hb
  have hxs := fun x h => hx x (List.mem_cons_of_mem _ h)
  have hstandard := ((hx _ List.mem_cons_self).known _ rfl).2
  have hlib := Library.mem_standard_firstOrder.1 hstandard
  rw [List.forall_mem_map] at hd
  refine Ensures.weaken (F := c.Fails g operands) ?_ fun e =>
    Or.imp ArgumentFails.tail fun h => ⟨g, rfl, h⟩
  unfold boundPart givenPart at hg
  unfold AdmitsBags at hbags
  cases c with
  | anyOf | allOf | map =>
    rw [List.takeWhile_map, List.dropWhile_map, List.filterMap_map] at hg
    rw [List.countP_map] at hbags
    exact runOneBag_ensures hlib hxs hd hbags hg hu
  | anyOfAny =>
    rw [List.filterMap_map] at hg
    exact runEveryCombination_ensures hlib hu hxs hd hg
  | allOfAny | anyOfAll | allOfAll =>
    rw [List.filterMap_map] at hg
    rw [List.forall_mem_map] at hbags
    refine runTwoBags_ensures hlib hu hxs ?_ hbags hg
    simpa [Combinator.arity, Arity.admits] using hn

/-- A call that was bound answers with a value of the declared datatype, or fails with the failure
of an operand or with one of its own. -/
theorem Callable.run_ensures {f : Function} (hf : f ∈ Library.standard) {operands : List Operand}
    (hx : ∀ x ∈ operands, x.Honest) (hb : f.bind (operands.map (·.toStatic)) [] = .ok ()) :
    (f.run operands [] []).Ensures Event.Sound (·.HasType (Expr.applicationType f (firstValue operands)))
      (fun e => ArgumentFails f.id 0 operands e ∨ f.Raises (firstValue operands) e) := by
  cases f with
  | firstOrder g =>
    exact FirstOrder.run_ensures (Library.mem_standard_firstOrder.1 hf) [] hx hb
  | combinator c => exact Combinator.run_ensures hx hb

end Xacml
