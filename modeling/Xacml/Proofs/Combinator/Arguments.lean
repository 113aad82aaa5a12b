/-
Arguments come first. A combinator evaluates its arguments once each, from left to right, before it
calls its function. The first one that fails ends the call, with its failure under its position, and
those after it are not evaluated; what happens if none fails is told by their values.
-/
import Xacml.Proofs.Combinator.Given
import Xacml.Proofs.Evaluation.Report

namespace Xacml

open Eval

variable {α β γ : Type}

/-! ## Operands -/

namespace Operand

/-- Evaluated to a value. -/
def Answers (x : Operand) (w : Value) : Prop := x.eval.answer = .ok w

def Failing (x : Operand) : Prop := ∃ e, x.eval.answer = .error e

variable {x : Operand} {xs : List Operand}

theorem Reliable.hasType (h : x.Reliable) {w : Value} (hw : x.Answers w) : w.HasType x.datatype :=
  h.typed w hw

theorem Reliable.bag_of_answers (h : x.Reliable) (hx : x.datatype.isBag = true) {w : Value}
    (hw : x.Answers w) : ∃ b, w = .bag b := by
  have htype := h.hasType hw
  obtain ⟨t, ht⟩ := Datatype.isBag_iff.1 hx
  rw [ht] at htype
  obtain ⟨b, rfl, -⟩ := Value.hasType_bag_iff.1 htype
  exact ⟨b, rfl⟩

theorem alike_of_reliable (h : ∀ x ∈ xs, x.Reliable) :
    List.Forall₂ Likeness.faithful.AlikeOperand xs xs :=
  List.forall₂_same.2 fun x hx => ⟨rfl, (h x hx).steady⟩

/-- What takes place when operands are evaluated, one after the other. -/
def traces (xs : List Operand) : List Event := xs.flatMap fun x => x.eval.trace

theorem traces_cons (x : Operand) (xs : List Operand) : traces (x :: xs) = x.eval.trace ++ traces xs :=
  List.flatMap_cons

/-- If some operand fails, there is one that does after others that answer. -/
theorem exists_first_failing (h : ∃ x ∈ xs, x.Failing) :
    ∃ before y after ws e, xs = before ++ y :: after ∧ List.Forall₂ Answers before ws ∧
      y.eval.answer = .error e := by
  induction xs with
  | nil =>
    obtain ⟨x, hx, -⟩ := h
    cases hx
  | cons x rest ih =>
    cases hx : x.eval.answer with
    | error e => exact ⟨[], x, rest, [], e, rfl, .nil, hx⟩
    | ok w =>
      obtain ⟨y, hy, e, he⟩ := h
      obtain rfl | hy := List.mem_cons.1 hy
      · cases he.symm.trans hx
      · obtain ⟨before, z, after, ws, e', rfl, hws, hz⟩ := ih ⟨y, hy, e, he⟩
        exact ⟨x :: before, z, after, w :: ws, e', rfl, .cons hx hws, hz⟩

end Operand

/-! ## Evaluating arguments first -/

/-- The evaluation `x` starts with that of operands, which are the arguments of the function `id` from
position `index` on. What follows if they answer is left to `proceeds`, which relates their values to
the result and to the events after theirs. -/
structure EvaluatesFirst (id : String) (index : Nat) (xs : List Operand)
    (proceeds : List Value → Except Failure α → List Event → Prop) (x : Eval α) : Prop where
  failing : ∀ before y after ws e, xs = before ++ y :: after →
    List.Forall₂ Operand.Answers before ws → y.eval.answer = .error e →
    x.Reports (.error (.inArgument id (index + before.length) e)) (Operand.traces (before ++ [y]))
  answering : ∀ ws, List.Forall₂ Operand.Answers xs ws →
    ∃ r events, proceeds ws r events ∧ x.Reports r (Operand.traces xs ++ events)

/-- Something is made of the values, and nothing takes place. -/
def MadeOf (f : List Value → γ) (ws : List Value) (r : Except Failure γ) (events : List Event) : Prop :=
  r = .ok (f ws) ∧ events = []

section Rules

variable {id : String} {index : Nat} {y : Operand} {xs : List Operand} {x x' : Eval α}
  {proceeds proceeds' : List Value → Except Failure α → List Event → Prop}

theorem evaluatesFirst_nil {r : Except Failure α} {events : List Event} (hr : proceeds [] r events)
    (h : x.Reports r events) : EvaluatesFirst id index [] proceeds x where
  failing := fun before y after _ _ hsplit =>
    absurd hsplit.symm (List.append_ne_nil_of_right_ne_nil before (List.cons_ne_nil y after))
  answering := by
    rintro _ ⟨⟩
    exact ⟨r, events, hr, h⟩

/-- One argument is evaluated, and then the others. -/
theorem evaluatesFirst_cons {k : Value → Eval α} (hy : y.eval.Steady)
    (h : ∀ w, y.Answers w →
      EvaluatesFirst id (index + 1) xs (fun ws => proceeds (w :: ws)) (k w)) :
    EvaluatesFirst id index (y :: xs) proceeds (y.eval.mapFailure (.inArgument id index) >>= k) where
  failing := by
    intro before z after ws e hsplit hbefore hz
    have hreports := hy.reports.mapFailure (.inArgument id index)
    -- the one that fails is the first, or one of the others, whose positions start after it
    cases hbefore with
    | nil =>
      cases hsplit
      rw [hz] at hreports
      have htraces : Operand.traces ([] ++ [y]) = y.eval.trace := List.flatMap_singleton _ _
      rw [htraces]
      exact hreports.bind_error
    | @cons b w before ws hw hrest =>
      cases hsplit
      rw [show y.eval.answer = .ok w from hw] at hreports
      have hrest := (h w hw).failing before z after ws e rfl hrest hz
      rw [List.cons_append, Operand.traces_cons, List.length_cons, Nat.add_comm before.length 1,
        ← Nat.add_assoc]
      exact hreports.bind hrest
  answering := by
    rintro _ (_ | ⟨hw, hws⟩)
    rename_i w ws
    have hreports := hy.reports.mapFailure (.inArgument id index)
    rw [show y.eval.answer = .ok w from hw] at hreports
    obtain ⟨r, events, hproceeds, hrest⟩ := (h w hw).answering ws hws
    refine ⟨r, events, hproceeds, ?_⟩
    rw [Operand.traces_cons, List.append_assoc]
    exact hreports.bind hrest

/-- The rest of an evaluation goes on with what was made of the values. -/
theorem EvaluatesFirst.bind {f : List Value → γ} {y : Eval γ} {k : γ → Eval α}
    (h : EvaluatesFirst id index xs (MadeOf f) y)
    (hk : ∀ ws, List.Forall₂ Operand.Answers xs ws →
      ∃ r events, proceeds ws r events ∧ (k (f ws)).Reports r events) :
    EvaluatesFirst id index xs proceeds (y >>= k) where
  failing := fun before z after ws e hsplit hws hz =>
    (h.failing before z after ws e hsplit hws hz).bind_error
  answering := by
    intro ws hws
    obtain ⟨_, _, ⟨rfl, rfl⟩, hreports⟩ := h.answering ws hws
    obtain ⟨r, events, hproceeds, hfollowing⟩ := hk ws hws
    rw [List.append_nil] at hreports
    exact ⟨r, events, hproceeds, hreports.bind hfollowing⟩

theorem EvaluatesFirst.map {f : List Value → γ} {y : Eval γ}
    (h : EvaluatesFirst id index xs (MadeOf f) y) (g : γ → β) :
    EvaluatesFirst id index xs (MadeOf fun ws => g (f ws)) (y >>= fun c => pure (g c)) :=
  h.bind fun ws _ => ⟨.ok (g (f ws)), [], ⟨rfl, rfl⟩, reports_ok _⟩

theorem EvaluatesFirst.of_alike (h : EvaluatesFirst id index xs proceeds x')
    (halike : Likeness.faithful.Alike x x') : EvaluatesFirst id index xs proceeds x where
  failing := fun before z after ws e hsplit hws hz =>
    (h.failing before z after ws e hsplit hws hz).of_alike halike
  answering := by
    intro ws hws
    obtain ⟨r, events, hproceeds, hreports⟩ := h.answering ws hws
    exact ⟨r, events, hproceeds, hreports.of_alike halike⟩

theorem EvaluatesFirst.answer_error (h : EvaluatesFirst id index xs proceeds x)
    (hf : ∃ y ∈ xs, y.Failing) : ∃ e, x.answer = .error e := by
  obtain ⟨before, z, after, ws, e, hsplit, hws, hz⟩ := Operand.exists_first_failing hf
  exact ⟨_, (h.failing before z after ws e hsplit hws hz).answer_eq⟩

end Rules

/-! ## Slots and domains -/

/-- The values that an argument contributes to the calls of a function. -/
def Value.contributed : Value → List AttributeValue
  | .single v => [v]
  | .bag b => b.values
  | .function _ => []

/-- An evaluated argument that is no function, as a slot. -/
def Slot.ofValue : Value → Slot
  | .single v => .value v
  | .bag b => .bag b
  | .function _ => .value default

section Loops

variable {xs : List Operand}

theorem evaluateSlots_first (hx : ∀ x ∈ xs, x.Reliable) (hd : ∀ x ∈ xs, x.datatype ≠ .function)
    (id : String) (index : Nat) :
    EvaluatesFirst id index xs (MadeOf (List.map Slot.ofValue)) (evaluateSlots id index xs) := by
  induction xs generalizing index with
  | nil => exact evaluatesFirst_nil ⟨rfl, rfl⟩ (reports_ok _)
  | cons x rest ih =>
    rw [List.forall_mem_cons] at hx hd
    rw [evaluateSlots]
    refine evaluatesFirst_cons hx.1.steady fun w hw => ?_
    have hrest := ih hx.2 hd.2 (index + 1)
    have htype := hx.1.hasType hw
    cases hdt : x.datatype with
    | function => exact absurd hdt hd.1
    | value t =>
      rw [hdt] at htype
      obtain ⟨a, rfl, -⟩ := Value.hasType_value_iff.1 htype
      exact hrest.map (Slot.value a :: ·)
    | bag t =>
      rw [hdt] at htype
      obtain ⟨b, rfl, -⟩ := Value.hasType_bag_iff.1 htype
      exact hrest.map (Slot.bag b :: ·)

theorem evaluateDomains_first (hx : ∀ x ∈ xs, x.Reliable)
    (hd : ∀ x ∈ xs, x.datatype ≠ .function) (id : String) (index : Nat) :
    EvaluatesFirst id index xs (MadeOf (List.map Value.contributed)) (evaluateDomains id index xs) := by
  induction xs generalizing index with
  | nil => exact evaluatesFirst_nil ⟨rfl, rfl⟩ (reports_ok _)
  | cons x rest ih =>
    rw [List.forall_mem_cons] at hx hd
    rw [evaluateDomains]
    refine evaluatesFirst_cons hx.1.steady fun w hw => ?_
    have hrest := ih hx.2 hd.2 (index + 1)
    cases w with
    | single a => exact hrest.map ([a] :: ·)
    | bag b => exact hrest.map (b.values :: ·)
    | function f => exact absurd (hx.1.hasType hw).symm hd.1

end Loops

/-! ## Calls of the function -/

/-- A call of a function with values, as a combinator makes it. -/
def FirstOrder.call (g : FirstOrderFunction) (values : List AttributeValue) : Eval Value :=
  subCall g [] (values.map AttributeValue.type) values

namespace Combinator

/-- A call that has to answer with a boolean. -/
def test (c : Combinator) (g : FirstOrderFunction) (values : List AttributeValue) : Eval Bool :=
  subTest c.id g [] (values.map AttributeValue.type) values

/-- A call that has to answer with a single value. -/
def element (c : Combinator) (g : FirstOrderFunction) (values : List AttributeValue) :
    Eval AttributeValue := do
  match ← g.call values with
  | .single v => Eval.ok v
  | other => Eval.fail (.of (.notSingle c.id other.datatype))

end Combinator

section Calls

variable (c : Combinator) (g : FirstOrderFunction) (values : List AttributeValue)

theorem steady_call : (g.call values).Steady := Likeness.alike_subCall .nil values

theorem steady_test : (c.test g values).Steady := Likeness.alike_subTest .nil values

theorem steady_element : (c.element g values).Steady :=
  (steady_call g values).bind fun v => by cases v <;> exact steady_done _

/-- A call is noted, and answers what the function does. -/
theorem reports_call : (g.call values).Reports (g.on values)
    (.subCall g.id values :: (g.run [] (values.map AttributeValue.type) values).trace) := by
  have hrun : (g.run [] (values.map AttributeValue.type) values).Steady :=
    Likeness.alike_firstOrder .nil _ values
  have hnote : (note (.subCall g.id values)).Reports (.ok ()) [.subCall g.id values] :=
    fun _ hc => ⟨rfl, rfl, hc⟩
  exact hnote.bind hrun.reports

/-- The failure of a call is that of the test. -/
theorem reports_test : (c.test g values).Reports
    (g.on values >>= fun v => v.bool?.elim (.error (.of (.notBoolean c.id v.datatype))) .ok)
    (.subCall g.id values :: (g.run [] (values.map AttributeValue.type) values).trace) := by
  have hcall := reports_call g values
  cases hv : g.on values with
  | error e =>
    rw [hv] at hcall
    exact hcall.bind_error
  | ok v =>
    rw [hv] at hcall
    rw [← List.append_nil (_ :: _)]
    refine hcall.bind ?_
    rw [ok_bind]
    cases v.bool? <;> exact reports_done _

/-- The failure of a call is that of the element that would be had of it. -/
theorem reports_element : (c.element g values).Reports
    (g.on values >>= fun
      | .single v => .ok v
      | other => .error (.of (.notSingle c.id other.datatype)))
    (.subCall g.id values :: (g.run [] (values.map AttributeValue.type) values).trace) := by
  have hcall := reports_call g values
  cases hv : g.on values with
  | error e =>
    rw [hv] at hcall
    exact hcall.bind_error
  | ok v =>
    rw [hv] at hcall
    rw [← List.append_nil (_ :: _)]
    refine hcall.bind ?_
    rw [ok_bind]
    cases v <;> exact reports_done _

variable {g values}

/-- A test answers what the function does, if that is a boolean. -/
theorem test_on (hg : g ∈ Library.firstOrder) (hr : g.returns = .boolean)
    (hb : g.bind [] (values.map AttributeValue.type) = .ok ()) :
    (c.test g values).answer.map .ofBool = g.on values := by
  rw [(reports_test c g values).answer_eq]
  cases hv : g.on values with
  | error e => rfl
  | ok v =>
    have htype := FirstOrder.on_hasType hg hb hv
    rw [hr] at htype
    obtain ⟨b, rfl⟩ := htype.eq_ofBool
    rfl

theorem element_on {t : AttributeType} (hg : g ∈ Library.firstOrder) (hr : g.returns = .value t)
    (hb : g.bind [] (values.map AttributeValue.type) = .ok ()) :
    (c.element g values).answer.map .single = g.on values := by
  rw [(reports_element c g values).answer_eq]
  cases hv : g.on values with
  | error e => rfl
  | ok v =>
    have htype := FirstOrder.on_hasType hg hb hv
    rw [hr] at htype
    obtain ⟨a, rfl, -⟩ := Value.hasType_value_iff.1 htype
    rfl

end Calls

end Xacml
