/-
Calls of first-order functions. If the types of the operands and of the given values are a list
that the signature accepts, and every operand keeps to its own datatype, then a call of a function
that keeps to its declaration answers with a value of the declared datatype, or fails with the
failure of one of its operands, named by its position, or with a failure that it raises itself.
-/
import Xacml.Binding
import Xacml.Proofs.Typing.Library

namespace Xacml

open Eval

/-! ## Kernels that are run -/

/-- A kernel that is run is that of a function of the standard library; its arguments are such that
the function's signature accepts them, and it makes do with them. -/
def Event.Sound : Event → Prop
  | .kernel id a => ∃ f ∈ Library.firstOrder, f.id = id ∧ a.Fits f.signature ∧
      ∃ kind run, f.body = .kernel kind run ∧
        Settles (·.HasType f.returns) Failure.IsFault (run a)
  | .leaf _ | .subCall _ _ => True

/-! ## Operands -/

/-- A constant that can stand in an expression: a function is one of the standard library. -/
def Value.Standard : Value → Prop
  | .single _ | .bag _ => True
  | .function f => f ∈ Library.standard

namespace Operand

/-- Some run of the operand ends in the failure. -/
def Fails (x : Operand) (e : Failure) : Prop := ∃ c, (x.eval c).result = .error e

/-- An operand keeps to what is known of it: it answers with values of its datatype, and if its
value is known, with that value. -/
structure Honest (x : Operand) : Prop where
  typed : ∀ c v, (x.eval c).result = .ok v → v.HasType x.datatype
  sound : ∀ c, ∀ e ∈ (x.eval c).events, e.Sound
  known : ∀ v, x.value? = some v → x.eval = .ok v ∧ v.Standard

variable {x : Operand}

theorem Honest.ensures (h : x.Honest) : x.eval.Ensures Event.Sound (·.HasType x.datatype) x.Fails :=
  fun c => ⟨settles_iff.2 ⟨fun v hv => h.typed c v hv, fun _ he => ⟨c, he⟩⟩, h.sound c⟩

/-- An operand whose value is known does not fail. -/
theorem Honest.not_fails (h : x.Honest) {v : Value} (hv : x.value? = some v) (e : Failure) :
    ¬ x.Fails e := by
  rintro ⟨c, hc⟩
  rw [(h.known v hv).1] at hc
  cases hc

/-- An operand that declares a single value evaluates to one of its type. -/
theorem Honest.single (h : x.Honest) {t : AttributeType} (ht : x.datatype = .value t) :
    x.eval.single.Ensures Event.Sound (fun v => v.type = t) x.Fails := by
  refine h.ensures.bind fun v hv => ?_
  rw [ht] at hv
  obtain ⟨a, rfl, ha⟩ := Value.hasType_value_iff.1 hv
  exact ensures_ok ha

/-- An operand that declares a bag evaluates to one of its type. -/
theorem Honest.bag (h : x.Honest) {t : AttributeType} (ht : x.datatype = .bag t) :
    x.eval.bag.Ensures Event.Sound (fun b => b.element = t) x.Fails := by
  refine h.ensures.bind fun v hv => ?_
  rw [ht] at hv
  obtain ⟨b, rfl, hb⟩ := Value.hasType_bag_iff.1 hv
  exact ensures_ok hb

end Operand

/-- The failure of an operand, with the position at which it stands; the positions of the list
start at `index`. -/
def ArgumentFails (function : String) (index : Nat) (operands : List Operand) (e : Failure) :
    Prop :=
  ∃ i x cause, operands[i]? = some x ∧ x.Fails cause ∧
    e = .inArgument function (index + i) cause

theorem ArgumentFails.head {function : String} {index : Nat} {x : Operand} {rest : List Operand}
    {cause : Failure} (h : x.Fails cause) :
    ArgumentFails function index (x :: rest) (.inArgument function index cause) :=
  ⟨0, x, cause, rfl, h, rfl⟩

theorem ArgumentFails.tail {function : String} {index : Nat} {x : Operand} {rest : List Operand}
    {e : Failure} (h : ArgumentFails function (index + 1) rest e) :
    ArgumentFails function index (x :: rest) e := by
  obtain ⟨i, y, cause, hy, hc, rfl⟩ := h
  exact ⟨i + 1, y, cause, hy, hc, by congr 1; omega⟩

/-! ## Failures of the function itself -/

/-- What a function may raise once its arguments are there: the problem, under a frame that says
which kernel met it. -/
inductive FirstOrder.Raises (f : FirstOrderFunction) : Failure → Prop
  | kernel {kind : KernelKind} {run : Arguments → Except Failure Value} {a : Arguments}
      {p : Problem} : f.body = .kernel kind run → a.Fits f.signature → run a = .error (.of p) →
      p.isMismatch = false → Raises f (.wrap (.body f.id) (.of p))
  | negativeCount {n : Int} : f.body = .connective .nOf → n < 0 →
      Raises f (.of (.negativeCount f.id n))
  | tooFewArguments {needed given : Nat} : f.body = .connective .nOf → given < needed →
      Raises f (.of (.tooFewArguments f.id needed given))
  | pattern {text : String} : f.body = .matching → Pattern.compile? text = none →
      Raises f (.of (.pattern text))

/-! ## Given values -/

theorem checkGivenFrom_of_types (function : String) {given : List AttributeValue} :
    ∀ index, checkGivenFrom function index (given.map AttributeValue.type) given = .ok () := by
  induction given with
  | nil => exact fun _ => rfl
  | cons v rest ih =>
    intro index
    rw [List.map_cons, checkGivenFrom, if_pos rfl]
    exact ih _

theorem checkGiven_of_types (function : String) (given : List AttributeValue) :
    checkGiven function (given.map AttributeValue.type) given = .ok () := by
  rw [checkGiven, if_pos (List.length_map _), checkGivenFrom_of_types]

/-! ## Kernels -/

section Call

variable {f : FirstOrderFunction} {operands : List Operand} {types : List AttributeType}
  {given : List AttributeValue}

/-- Operands are evaluated to the single values and bags that they declare. -/
theorem evaluateArguments_ensures (hx : ∀ x ∈ operands, x.Honest) (index : Nat)
    (hp : ∀ (i : Nat) (x : Operand), operands[i]? = some x →
      f.signature.parameter? (index + i) = some x.datatype ∧ x.datatype ≠ .function) :
    (evaluateArguments f index operands).Ensures Event.Sound
      (fun a => a.values.map AttributeValue.type = operands.filterMap (·.datatype.type?) ∧
        a.bags.map Bag.element = operands.filterMap (·.datatype.element?))
      (ArgumentFails f.id index operands) := by
  induction operands generalizing index with
  | nil => exact ensures_ok ⟨rfl, rfl⟩
  | cons x rest ih =>
    have hrest := (ih (fun y hy => hx y (List.mem_cons_of_mem _ hy)) (index + 1)
      fun i y hy => by rw [Nat.add_right_comm]; exact hp (i + 1) y hy).weaken
        fun _ => ArgumentFails.tail (x := x)
    have hxh := hx x List.mem_cons_self
    obtain ⟨hparam, hfun⟩ := hp 0 x rfl
    rw [Nat.add_zero] at hparam
    rw [evaluateArguments, hparam]
    cases hd : x.datatype with
    | function => exact absurd hd hfun
    | value t =>
      refine ((hxh.single hd).mapFailure fun _ => ArgumentFails.head).bind fun v hv => ?_
      refine hrest.bind fun a ha => ?_
      obtain ⟨h₁, h₂⟩ := ha
      refine ensures_pure ⟨?_, ?_⟩
      · simp [hd, Datatype.type?, hv, h₁]
      · simp [hd, Datatype.element?, h₂]
    | bag t =>
      refine ((hxh.bag hd).mapFailure fun _ => ArgumentFails.head).bind fun b hb => ?_
      refine hrest.bind fun a ha => ?_
      obtain ⟨h₁, h₂⟩ := ha
      refine ensures_pure ⟨?_, ?_⟩
      · simp [hd, Datatype.type?, h₁]
      · simp [hd, Datatype.element?, hb, h₂]

/-- What a call is bound to: the datatypes of the operands and the types of the given values, in one
list. -/
def callTypes (operands : List Operand) (types : List AttributeType) : List Datatype :=
  operands.map (·.datatype) ++ types.map .value

theorem filterMap_type?_callTypes : (callTypes operands types).filterMap Datatype.type? =
    operands.filterMap (·.datatype.type?) ++ types := by
  have h : (types.map Datatype.value).filterMap Datatype.type? = types := by
    rw [List.filterMap_map]; exact List.filterMap_some
  rw [callTypes, List.filterMap_append, h, List.filterMap_map]
  rfl

theorem filterMap_element?_callTypes : (callTypes operands types).filterMap Datatype.element? =
    operands.filterMap (·.datatype.element?) := by
  have h : (types.map Datatype.value).filterMap Datatype.element? = [] := by
    rw [List.filterMap_map, List.filterMap_eq_nil_iff]; exact fun _ _ => rfl
  rw [callTypes, List.filterMap_append, h, List.append_nil, List.filterMap_map]
  rfl

/-- Evaluated operands and the given values after them are the list that a call is bound to. -/
theorem types_eq_callTypes (hord : Ordered (callTypes operands (given.map AttributeValue.type)))
    {a : Arguments}
    (hv : a.values.map AttributeValue.type = operands.filterMap (·.datatype.type?))
    (hb : a.bags.map Bag.element = operands.filterMap (·.datatype.element?)) :
    Arguments.types { a with values := a.values ++ given } =
      callTypes operands (given.map AttributeValue.type) := by
  rw [hord.eq_append, filterMap_type?_callTypes, filterMap_element?_callTypes, ← hv, ← hb,
    ← List.map_append, List.map_map, List.map_map]
  rfl

/-- The position of an operand has the operand's datatype. -/
theorem getElem?_callTypes_operand (types : List AttributeType) {i : Nat} {x : Operand}
    (hi : operands[i]? = some x) : (callTypes operands types)[i]? = some x.datatype := by
  have hl : i < (operands.map (·.datatype)).length := by
    rw [List.length_map]; exact (List.getElem?_eq_some_iff.1 hi).1
  rw [callTypes, List.getElem?_append_left hl, List.getElem?_map, hi]
  rfl

theorem runKernel_ensures {kind : KernelKind} {kernel : Arguments → Except Failure Value}
    (hbody : f.body = .kernel kind kernel) {shape : ArgumentShape}
    (hs : f.signature.shape = .ok shape)
    (hrun : ∀ a : Arguments, a.Fits f.signature →
      Settles (·.HasType f.returns) Failure.IsFault (kernel a))
    (hf : f ∈ Library.firstOrder) (hx : ∀ x ∈ operands, x.Honest)
    (hacc : f.signature.Accepts (callTypes operands (given.map AttributeValue.type))) :
    (runKernel f kernel operands (given.map AttributeValue.type) given).Ensures Event.Sound
      (·.HasType f.returns) (fun e => ArgumentFails f.id 0 operands e ∨ f.Raises e) := by
  have hne := (Signature.ordered_parameters hs).1
  have hord := hacc.ordered hs
  have hparam := ((Signature.accepts_iff hne).1 hacc).2
  unfold runKernel
  rw [checkGiven_of_types]
  refine (ensures_ok (P := fun _ => True) trivial).bind fun _ _ => ?_
  have hargs := evaluateArguments_ensures (f := f) hx 0 fun i x hi => by
    have hget := getElem?_callTypes_operand (given.map AttributeValue.type) hi
    refine ⟨by rw [Nat.zero_add]; exact hparam i _ hget, fun hf => hord.1 ?_⟩
    rw [← hf]; exact List.mem_of_getElem? hget
  refine (hargs.weaken fun _ => .inl).bind fun a ⟨hv, hb⟩ => ?_
  have hfits : Arguments.Fits { a with values := a.values ++ given } f.signature := by
    rw [Arguments.Fits, types_eq_callTypes hord hv hb]
    exact hacc
  refine ((ensures_done (hrun _ hfits).withError).mapFailure ?_).afterNote
    ⟨f, hf, rfl, hfits, _, _, hbody, hrun _ hfits⟩
  rintro _ ⟨⟨p, hp, rfl⟩, he⟩
  exact .inr (.kernel hbody hfits he hp)

/-! ## Arguments by position -/

/-- A position of the list of types that is a single value is evaluated to one of its type. -/
theorem valueAt_ensures (hx : ∀ x ∈ operands, x.Honest) {index : Nat} {t : AttributeType}
    (ht : (callTypes operands (given.map AttributeValue.type))[index]? = some (.value t)) :
    (valueAt f.id operands given index).Ensures Event.Sound (fun v => v.type = t)
      (ArgumentFails f.id 0 operands) := by
  unfold valueAt
  cases hi : operands[index]? with
  | some x =>
    rw [getElem?_callTypes_operand _ hi] at ht
    have hxh := hx x (List.mem_of_getElem? hi)
    refine (hxh.single (Option.some.inj ht)).mapFailure fun e he => ?_
    exact ⟨index, x, e, hi, he, by rw [Nat.zero_add]⟩
  | none =>
    have hl : (operands.map (·.datatype)).length ≤ index := by
      rw [List.length_map]; exact List.getElem?_eq_none_iff.1 hi
    rw [callTypes, List.getElem?_append_right hl, List.length_map, List.getElem?_map,
      List.getElem?_map] at ht
    cases hg : given[index - operands.length]? with
    | none => rw [hg] at ht; cases ht
    | some v => rw [hg] at ht; cases ht; exact ensures_ok rfl

theorem booleanAt_ensures (hx : ∀ x ∈ operands, x.Honest) {index : Nat}
    (ht : (callTypes operands (given.map AttributeValue.type))[index]? = some .boolean) :
    (booleanAt f.id operands given index).Ensures Event.Sound (fun _ => True)
      (ArgumentFails f.id 0 operands) := by
  refine (valueAt_ensures hx ht).bind fun v hv => ?_
  cases v with
  | boolean b => exact ensures_ok trivial
  | _ => cases hv

/-! ## Connectives -/

section Connective

variable {F : Failure → Prop}

theorem untilDecisive_ensures {decisive : Bool} {xs : List (Eval Bool)}
    (hx : ∀ x ∈ xs, x.Ensures Event.Sound (fun _ => True) F) {failure : Option Failure}
    (hf : ∀ e, failure = some e → F e) :
    (untilDecisive decisive failure xs).Ensures Event.Sound (fun _ => True) F := by
  induction xs generalizing failure with
  | nil =>
    cases failure with
    | none => exact ensures_ok trivial
    | some e => exact ensures_fail (hf e rfl)
  | cons x rest ih =>
    have ih {failure : Option Failure} (hf : ∀ e, failure = some e → F e) :
        (untilDecisive decisive failure rest).Ensures Event.Sound (fun _ => True) F :=
      ih (fun y hy => hx y (List.mem_cons_of_mem _ hy)) hf
    rw [untilDecisive_cons]
    refine (hx x List.mem_cons_self).attempt.bind fun outcome ho => ?_
    cases outcome with
    | ok b =>
      dsimp only
      split
      · exact ensures_ok trivial
      · exact ih hf
    | error e =>
      refine ih fun e' he' => ?_
      cases failure with
      | none => cases he'; exact ho
      | some e₀ => exact hf e' he'

theorem untilReached_ensures {xs : List (Eval Bool)}
    (hx : ∀ x ∈ xs, x.Ensures Event.Sound (fun _ => True) F) {needed failures : Nat} {failure : Option Failure}
    (hf : ∀ e, failure = some e → F e) :
    (untilReached needed failures failure xs).Ensures Event.Sound (fun _ => True) F := by
  induction xs generalizing needed failures failure with
  | nil =>
    cases failure with
    | none => exact ensures_ok trivial
    | some e => exact ensures_fail (hf e rfl)
  | cons x rest ih =>
    have hrest := fun y hy => hx y (List.mem_cons_of_mem x hy)
    rw [untilReached_cons]
    refine (hx x List.mem_cons_self).attempt.bind fun outcome ho => ?_
    -- whatever the outcome, either the answer is decided or the rest goes on
    have hstep : ∀ needed failures failure, (∀ e, failure = some e → F e) →
        (if needed = 0 then ok true else if failures + rest.length < needed then ok false
          else untilReached needed failures failure rest).Ensures Event.Sound (fun _ => True) F := by
      intro needed failures failure hf
      split
      · exact ensures_ok trivial
      split
      · exact ensures_ok trivial
      · exact ih hrest hf
    rcases outcome with e | (_ | _)
    · refine hstep _ _ _ fun e' he' => ?_
      cases failure with
      | none => cases he'; exact ho
      | some e₀ => exact hf e' he'
    · exact hstep _ _ _ hf
    · exact hstep _ _ _ hf

end Connective

/-- A connective whose parameters are all booleans. -/
theorem runConnective_ensures {c : Connective} (hc : c ≠ .nOf) (hx : ∀ x ∈ operands, x.Honest)
    {count : Nat} (ht : ∀ i < count,
      (callTypes operands (given.map AttributeValue.type))[i]? = some .boolean) :
    (runConnective c f.id operands count given).Ensures Event.Sound (fun _ => True)
      (ArgumentFails f.id 0 operands) := by
  have hbooleans : ∀ x ∈ (List.range count).map (booleanAt f.id operands given),
      x.Ensures Event.Sound (fun _ => True) (ArgumentFails f.id 0 operands) := by
    intro x hm
    obtain ⟨i, hi, rfl⟩ := List.mem_map.1 hm
    exact booleanAt_ensures hx (ht i (List.mem_range.1 hi))
  cases c with
  | or => exact untilDecisive_ensures hbooleans (by simp)
  | and => exact untilDecisive_ensures hbooleans (by simp)
  | nOf => exact absurd rfl hc

theorem runNOf_ensures (hbody : f.body = .connective .nOf) (hx : ∀ x ∈ operands, x.Honest)
    {count : Nat}
    (h₀ : (callTypes operands (given.map AttributeValue.type))[0]? = some .integer)
    (ht : ∀ i < count - 1,
      (callTypes operands (given.map AttributeValue.type))[i + 1]? = some .boolean) :
    (runNOf f.id operands count given).Ensures Event.Sound (fun _ => True)
      (fun e => ArgumentFails f.id 0 operands e ∨ f.Raises e) := by
  refine ((valueAt_ensures hx h₀).weaken fun _ => .inl).bind fun v hv => ?_
  cases v with
  | integer n =>
    dsimp only
    split
    · rename_i hneg
      exact ensures_fail (.inr (.negativeCount hbody hneg))
    split
    · rename_i hfew
      exact ensures_fail (.inr (.tooFewArguments hbody hfew))
    split
    · exact ensures_ok trivial
    · refine (untilReached_ensures (fun x hm => ?_) (by simp)).weaken fun _ => .inl
      obtain ⟨i, hi, rfl⟩ := List.mem_map.1 hm
      exact booleanAt_ensures hx (ht i (List.mem_range.1 hi))
  | _ => cases hv

/-! ## Patterns -/

theorem callPattern_ensures (hbody : f.body = .matching) (hx : ∀ x ∈ operands, x.Honest)
    (h₀ : (callTypes operands (given.map AttributeValue.type))[0]? = some .string) :
    (callPattern f.id operands given).Ensures Event.Sound (fun _ => True)
      (fun e => ArgumentFails f.id 0 operands e ∨ f.Raises e) := by
  unfold callPattern
  split
  · split
    · exact ensures_ok trivial
    · rename_i hp
      exact ensures_fail (.inr (.pattern hbody hp))
  · refine ((valueAt_ensures hx h₀).weaken fun _ => .inl).bind fun v hv => ?_
    cases v with
    | string p =>
      refine (ensures_pattern p).weaken ?_
      rintro _ ⟨rfl, hp⟩
      exact .inr (.pattern hbody hp)
    | _ => cases hv

theorem runMatching_ensures (hbody : f.body = .matching) (hx : ∀ x ∈ operands, x.Honest)
    {subject : AttributeType} (hs : subject = .string ∨ subject = .anyURI)
    (h₀ : (callTypes operands (given.map AttributeValue.type))[0]? = some .string)
    (h₁ : (callTypes operands (given.map AttributeValue.type))[1]? = some (.value subject)) :
    (runMatching f.id operands given).Ensures Event.Sound (fun _ => True)
      (fun e => ArgumentFails f.id 0 operands e ∨ f.Raises e) := by
  refine (callPattern_ensures hbody hx h₀).bind fun p _ => ?_
  refine ((valueAt_ensures hx h₁).weaken fun _ => .inl).bind fun v hv => ?_
  cases v with
  | string s => exact ensures_ok trivial
  | anyURI s => exact ensures_ok trivial
  | _ => rcases hs with rfl | rfl <;> cases hv

/-! ## Calls -/

/-- A function that keeps to its declaration has a parameter. -/
theorem FirstOrder.WellTyped.parameters_ne_nil (hf : f.WellTyped) : f.signature.parameters ≠ [] := by
  cases hf with
  | kernel _ hs _ => exact (Signature.ordered_parameters hs.choose_spec).1
  | junction _ _ _ hs => rw [hs]; exact List.cons_ne_nil _ _
  | counting _ _ hs => rw [hs]; exact List.cons_ne_nil _ _
  | matching _ _ hs _ => rw [hs]; exact List.cons_ne_nil _ _

/-- What a call was bound to is a list that the signature accepts. -/
theorem FirstOrder.WellTyped.accepts_of_bind (hf : f.WellTyped)
    (hb : f.bind (operands.map (·.toStatic)) types = .ok ()) :
    f.signature.Accepts (callTypes operands types) := by
  unfold FirstOrder.bind at hb
  rw [List.map_map] at hb
  cases hc : f.signature.check f.id (operands.map (Static.datatype ∘ fun x => x.toStatic)) types with
  | error e => rw [hc] at hb; cases hb
  | ok l => exact ((Signature.check_eq_ok_iff hf.parameters_ne_nil).1 hc).1

theorem length_callTypes (operands : List Operand) (types : List AttributeType) :
    (callTypes operands types).length = operands.length + types.length := by
  simp [callTypes]

/-- A call that was bound answers with a value of the declared datatype, or fails with the failure
of an operand or with one of its own. -/
theorem FirstOrder.run_ensures (hf : f ∈ Library.firstOrder) (given : List AttributeValue)
    (hx : ∀ x ∈ operands, x.Honest)
    (hb : f.bind (operands.map (·.toStatic)) (given.map AttributeValue.type) = .ok ()) :
    (f.run operands (given.map AttributeValue.type) given).Ensures Event.Sound (·.HasType f.returns)
      (fun e => ArgumentFails f.id 0 operands e ∨ f.Raises e) := by
  have hwt := Library.firstOrder_wellTyped hf
  have hacc := hwt.accepts_of_bind hb
  have hlen := length_callTypes operands (given.map AttributeValue.type)
  unfold FirstOrder.run
  cases hwt with
  | kernel hbody hs hrun =>
    obtain ⟨shape, hs⟩ := hs
    rw [hbody]
    exact runKernel_ensures hbody hs hrun hf hx hacc
  | junction hbody hc hr hs =>
    rw [hbody, hr]
    rw [hs] at hacc
    obtain ⟨n, hn⟩ := (Signature.accepts_variadicOf []).1 hacc
    rw [hn] at hlen
    refine ((runConnective_ensures hc hx fun i hi => ?_).weaken fun _ => .inl).ofBool
    rw [← hlen] at hi
    rw [hn, List.nil_append, List.getElem?_replicate, if_pos (by simpa using hi)]
  | counting hbody hr hs =>
    rw [hbody, hr]
    rw [hs] at hacc
    obtain ⟨n, hn⟩ := (Signature.accepts_variadicOf [.integer]).1 hacc
    rw [hn] at hlen
    refine (runNOf_ensures hbody hx (by rw [hn]; rfl) fun i hi => ?_).ofBool
    rw [← hlen] at hi
    rw [hn, List.singleton_append, List.getElem?_cons_succ, List.getElem?_replicate,
      if_pos (by simpa using hi)]
  | matching hbody hr hs hsubject =>
    rw [hbody, hr]
    rw [hs, Signature.accepts_fixed] at hacc
    exact (runMatching_ensures hbody hx hsubject (by rw [hacc]; rfl) (by rw [hacc]; rfl)).ofBool

end Call

end Xacml
