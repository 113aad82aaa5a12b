/-
What a call of a kernel answers. When every operand has answered, the kernel is run on the single
values and the bags among the answers, and the call answers as the kernel does; whether the values
are evaluated or given makes no difference to it.
-/
import Xacml.Proofs.Combinator.Combination

namespace Xacml

open Eval

/-- The arguments of a kernel, from what its operands have answered. -/
def Arguments.ofValues : List Value → Arguments
  | [] => ⟨[], []⟩
  | .single v :: rest => { ofValues rest with values := v :: (ofValues rest).values }
  | .bag b :: rest => { ofValues rest with bags := b :: (ofValues rest).bags }
  | .function _ :: rest => ofValues rest

theorem answer_single {x : Eval Value} {v : AttributeValue} (hx : x.Steady)
    (h : x.answer = .ok (.single v)) : x.single.answer = .ok v :=
  answer_bind_ok hx (steady_ok v) h

theorem answer_bag {x : Eval Value} {b : Bag} (hx : x.Steady) (h : x.answer = .ok (.bag b)) :
    x.bag.answer = .ok b :=
  answer_bind_ok hx (steady_ok b) h

/-- Two answers that are put together, the first of them known. -/
theorem answer_pair {α β γ : Type} {x : Eval α} {y : Eval β} {a : α} (hx : x.Steady) (hy : y.Steady)
    (ha : x.answer = .ok a) (f : α → β → γ) :
    (x >>= fun a => y >>= fun b => pure (f a b)).answer = y.answer.map (f a) :=
  (answer_bind_ok hx (hy.bind fun _ => steady_done _) ha).trans (answer_map y (f a))

section Call

variable {g : FirstOrderFunction} {kind : KernelKind} {run : Arguments → Except Failure Value}
  {xs : List Operand} {ws : List Value}

theorem steady_evaluateArguments (hx : ∀ x ∈ xs, x.Reliable) (index : Nat) :
    (evaluateArguments g index xs).Steady :=
  Likeness.alike_evaluateArguments (Operand.alike_of_reliable hx) index

/-- Where the parameters are of the operands' datatypes, every answer is taken for what it is. -/
theorem answer_evaluateArguments (hx : ∀ x ∈ xs, x.Reliable)
    (hd : ∀ x ∈ xs, x.datatype ≠ .function) (hws : List.Forall₂ Operand.Answers xs ws) (index : Nat)
    (hparameter : ∀ i x, xs[i]? = some x → g.signature.parameter? (index + i) = some x.datatype) :
    (evaluateArguments g index xs).answer = .ok (.ofValues ws) := by
  induction hws generalizing index with
  | nil => rfl
  | @cons x w xs ws hw hws ih =>
    rw [List.forall_mem_cons] at hx hd
    have hfirst : g.signature.parameter? index = some x.datatype := hparameter 0 x rfl
    have hrest := ih hx.2 hd.2 (index + 1) fun i y hy => by
      rw [Nat.add_assoc, Nat.add_comm 1]
      exact hparameter (i + 1) y hy
    have hsteady := steady_evaluateArguments (g := g) hx.2 (index + 1)
    have htype := hx.1.hasType hw
    have heval := hx.1.steady
    rw [evaluateArguments, hfirst, Option.any_some]
    cases hdt : x.datatype with
    | function => exact absurd hdt hd.1
    | value t =>
      rw [hdt] at htype
      obtain ⟨v, rfl, -⟩ := Value.hasType_value_iff.1 htype
      have hv : (x.eval.single.mapFailure (.inArgument g.id index)).answer = .ok v := by
        rw [answer_mapFailure, answer_single heval hw]
        rfl
      refine (answer_pair (heval.single.mapFailure _) hsteady hv _).trans ?_
      rw [hrest]
      rfl
    | bag t =>
      rw [hdt] at htype
      obtain ⟨b, rfl, -⟩ := Value.hasType_bag_iff.1 htype
      have hb : (x.eval.bag.mapFailure (.inArgument g.id index)).answer = .ok b := by
        rw [answer_mapFailure, answer_bag heval hw]
        rfl
      refine (answer_pair (heval.bag.mapFailure _) hsteady hb _).trans ?_
      rw [hrest]
      rfl

/-- A call of a kernel answers as the kernel does on what its operands have answered. -/
theorem FirstOrder.answer_kernel (hg : g ∈ Library.firstOrder) (hbody : g.body = .kernel kind run)
    (hx : ∀ x ∈ xs, x.Reliable) (hb : g.bind (xs.map (·.toStatic)) [] = .ok ())
    (hws : List.Forall₂ Operand.Answers xs ws) :
    (g.run xs [] []).answer = (run (.ofValues ws)).mapError (.wrap (.body g.id)) := by
  have hwt := Library.firstOrder_wellTyped hg
  have haccepts := hwt.accepts_of_bind hb
  have hparameter := ((Signature.accepts_iff hwt.parameters_ne_nil).1 haccepts).2
  have hshape : ∃ shape, g.signature.shape = .ok shape := by
    cases hwt with
    | kernel _ hs _ => exact hs
    | junction h | counting h | matching h => cases hbody.symm.trans h
  have hd : ∀ x ∈ xs, x.datatype ≠ .function := by
    obtain ⟨shape, hs⟩ := hshape
    intro x hx hfunction
    refine (haccepts.ordered hs).1 (List.mem_append_left _ ?_)
    exact hfunction ▸ List.mem_map_of_mem hx
  have hargs := answer_evaluateArguments (g := g) hx hd hws 0 fun i x hi => by
    rw [Nat.zero_add]
    exact hparameter i _ (getElem?_callTypes_operand [] hi)
  have hsteady := steady_evaluateArguments (g := g) hx 0
  -- nothing is given, so that the check of the given values passes and they add nothing
  have hrun : g.run xs [] [] = evaluateArguments g 0 xs >>= fun a =>
      note (.kernel g.id { a with values := a.values ++ [] }) >>= fun _ =>
        (done (run { a with values := a.values ++ [] })).mapFailure (.wrap (.body g.id)) := by
    rw [FirstOrder.run, hbody]
    rfl
  rw [hrun, answer_bind_ok hsteady ?following hargs, List.append_nil]
  case following => exact (Likeness.alike_note _ rfl).bind fun _ => (steady_done _).mapFailure _
  rfl

/-- Called with values, a kernel is run on them. -/
theorem FirstOrder.on_kernel (hbody : g.body = .kernel kind run) (values : List AttributeValue) :
    g.on values = (run ⟨values, []⟩).mapError (.wrap (.body g.id)) := by
  rw [FirstOrder.on, FirstOrder.run, hbody]
  dsimp only
  rw [runKernel, checkGiven_of_types]
  rfl

end Call

end Xacml
