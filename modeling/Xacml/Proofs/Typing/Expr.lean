/-
Evaluation of trees. A tree is built if every application in it passed the check and applies a
function of the standard library. If its leaves answer as they declare, an evaluation answers with
a value of the declared datatype, or fails along a path: the failure of a leaf, or one raised by an
application itself, is handed up unchanged under one frame for each application on the way.
-/
import Xacml.Evaluation.Expr
import Xacml.Proofs.Typing.Combinator

namespace Xacml

open Eval

/-! ## Trees -/

/-- A leaf answers in the context with values of the datatype that it declares, if at all. -/
def Leaf.Typed (ctx : Option Context) (l : Leaf) : Prop :=
  ∀ v, l.answer ctx = .ok v → v.HasType l.datatype

namespace Expr

/-- A tree over leaves that satisfy `L`. -/
inductive Built (L : Leaf → Prop) : Expr → Prop
  | constant {v : Value} : v.Standard → Built L (.constant v)
  | leaf {l : Leaf} : L l → Built L (.leaf l)
  | reference {id : String} {definition : Expr} {chain : Nat} : Built L definition →
      Built L (.reference id definition chain)
  | apply {f : Function} {arguments : List Expr} : f ∈ Library.standard →
      (∀ e ∈ arguments, Built L e) → f.bind (arguments.map static) [] = .ok () →
      Built L (.apply f arguments)

variable {L L' : Leaf → Prop} {ctx : Option Context}

theorem Built.imp {e : Expr} (h : e.Built L) (hL : ∀ l, L l → L' l) : e.Built L' := by
  induction h with
  | constant hv => exact .constant hv
  | leaf hl => exact .leaf (hL _ hl)
  | reference _ ih => exact .reference ih
  | apply hf _ hb ih => exact .apply hf ih hb

/-- A tree with a known value evaluates to it. -/
theorem Built.known {e : Expr} (h : e.Built L) {v : Value} (hv : e.value? = some v) :
    e.eval ctx = .ok v ∧ v.Standard := by
  induction h with
  | constant hs => cases hv; exact ⟨by rw [eval], hs⟩
  | leaf _ => cases hv
  | reference _ ih => rw [eval]; exact ih hv
  | apply _ _ _ _ => cases hv

/-! ## Paths down a tree -/

/-- The way from a tree down to a node in it: the applications that are passed, each with the
position of the argument taken. References to variables leave no trace. -/
inductive Descends : Expr → List (String × Nat) → Expr → Prop
  | here (e : Expr) : Descends e [] e
  | reference {id : String} {definition node : Expr} {chain : Nat} {steps : List (String × Nat)} :
      Descends definition steps node → Descends (.reference id definition chain) steps node
  | argument {f : Function} {arguments : List Expr} {i : Nat} {child node : Expr}
      {steps : List (String × Nat)} : arguments[i]? = some child → Descends child steps node →
      Descends (.apply f arguments) ((f.id, i) :: steps) node

/-- A node fails of its own: a leaf has no answer, or an application raises a failure itself. -/
inductive Originates (ctx : Option Context) : Expr → Failure → Prop
  | leaf {l : Leaf} {e : Failure} : l.answer ctx = .error e → Originates ctx (.leaf l) e
  | apply {f : Function} {arguments : List Expr} {e : Failure} {c : Pattern.Cache} :
      ((Expr.apply f arguments).eval ctx c).result = .error e →
      f.Raises (arguments.head?.bind value?) e → Originates ctx (.apply f arguments) e

/-- A failure as it looks above the path that leads down to its origin. -/
def throughArguments (steps : List (String × Nat)) (origin : Failure) : Failure :=
  steps.foldr (fun step => .inArgument step.1 step.2) origin

/-- A tree fails along a path. -/
def FailsAlong (ctx : Option Context) (e : Expr) (failure : Failure) : Prop :=
  ∃ steps node origin, e.Descends steps node ∧ Originates ctx node origin ∧
    failure = throughArguments steps origin

/-! ## Evaluation -/

theorem leaf_ensures {l : Leaf} (hl : l.Typed ctx) :
    (l.eval ctx).Ensures Event.Sound (·.HasType l.datatype) (fun e => l.answer ctx = .error e) := by
  have hanswer : Settles (·.HasType l.datatype) (fun e => l.answer ctx = .error e) (l.answer ctx) :=
    settles_iff.2 ⟨hl, fun _ h => h⟩
  exact (ensures_done hanswer).afterNote trivial

/-- Trees whose evaluation is as they declare are honest operands. -/
theorem operand_honest {e : Expr} (h : e.Built L) {F : Failure → Prop}
    (he : (e.eval ctx).Ensures Event.Sound (·.HasType e.datatype) F) : (e.operand ctx).Honest where
  typed c _ hv := (settles_iff.1 (he c).1).1 _ hv
  sound c := (he c).2
  known _ hv := h.known hv

/-- A tree over leaves that answer as they declare evaluates to a value of its datatype, or fails
along a path. -/
theorem Built.eval_ensures {e : Expr} (h : e.Built (Leaf.Typed ctx)) :
    (e.eval ctx).Ensures Event.Sound (·.HasType e.datatype) (e.FailsAlong ctx) := by
  -- on the way a tree was built, so that every argument of an application is an honest operand
  induction h with
  | constant _ =>
    rw [eval, datatype]
    exact ensures_ok rfl
  | leaf hl =>
    rw [eval, datatype]
    exact (leaf_ensures hl).weaken fun e he => ⟨[], _, e, .here _, .leaf he, rfl⟩
  | reference _ ih =>
    rw [eval, datatype]
    refine ih.weaken ?_
    rintro e ⟨steps, node, origin, hd, ho, rfl⟩
    exact ⟨steps, node, origin, .reference hd, ho, rfl⟩
  | @apply f arguments hf hbuilt hb ih =>
    have hx : ∀ x ∈ arguments.map (operand ctx), x.Honest :=
      List.forall_mem_map.2 fun e he => operand_honest (hbuilt e he) (ih e he)
    have hstatic : (arguments.map (operand ctx)).map (·.toStatic) = arguments.map static :=
      List.map_map ..
    have hfirst : firstValue (arguments.map (operand ctx)) = arguments.head?.bind value? := by
      cases arguments <;> rfl
    have hrun := Callable.run_ensures hf hx (by rw [hstatic]; exact hb)
    rw [hfirst] at hrun
    rw [eval_apply]
    refine hrun.withFailure.weaken ?_
    rintro e ⟨⟨i, x, cause, hi, ⟨c', hc⟩, rfl⟩ | hr, c, he⟩
    · -- an argument fails: the path goes down to it, and on from there
      rw [List.getElem?_map, Option.map_eq_some_iff] at hi
      obtain ⟨child, hi, rfl⟩ := hi
      have hchild := (settles_iff.1 (ih child (List.mem_of_getElem? hi) c').1).2 cause hc
      obtain ⟨steps, node, origin, hd, ho, rfl⟩ := hchild
      exact ⟨(f.id, i) :: steps, node, origin, .argument hi hd, ho, by rw [Nat.zero_add]; rfl⟩
    · -- the application raises the failure itself: the path ends here
      rw [← eval_apply] at he
      exact ⟨[], _, e, .here _, .apply he hr, rfl⟩

/-! ## Chains of failures -/

/-- One frame for each argument on the path, with the status of the origin, and then the origin as
it was. -/
theorem chain_throughArguments (steps : List (String × Nat)) (origin : Failure) :
    (throughArguments steps origin).chain =
      steps.map (fun step => ⟨origin.status, .argument step.1 step.2⟩) ++ origin.chain := by
  have hstatus : ∀ steps, (throughArguments steps origin).status = origin.status := by
    intro steps
    induction steps with
    | nil => rfl
    | cons step rest ih => exact ih
  induction steps with
  | nil => rfl
  | cons step rest ih =>
    have h : (throughArguments (step :: rest) origin).chain =
        ⟨(throughArguments rest origin).status, .argument step.1 step.2⟩ ::
          (throughArguments rest origin).chain := Failure.chain_wrap _ _
    rw [h, hstatus, ih]
    rfl

/-- The chain of a failure, read from the outside, is a path down the tree to the node that failed
of its own: a frame for each argument on the way, all with the status of the origin, and then the
chain of the origin. -/
theorem Built.failure_chain {e : Expr} (h : e.Built (Leaf.Typed ctx)) {c : Pattern.Cache}
    {failure : Failure} (hf : (e.eval ctx c).result = .error failure) :
    ∃ steps node origin, e.Descends steps node ∧ Originates ctx node origin ∧
      failure.chain =
        steps.map (fun step => ⟨origin.status, .argument step.1 step.2⟩) ++ origin.chain := by
  obtain ⟨steps, node, origin, hd, ho, rfl⟩ := (settles_iff.1 (h.eval_ensures c).1).2 failure hf
  exact ⟨steps, node, origin, hd, ho, chain_throughArguments steps origin⟩

/-- A leaf that has no answer, below a disjunction that is referred to by a negation. -/
theorem failure_chain_negation :
    ∃ (e : Expr) (failure : Failure), e.Built (Leaf.Typed none) ∧
      (e.eval none (.empty 0)).result = .error failure ∧
      failure.chain.length = 3 ∧ ∃ steps node origin, e.Descends steps node ∧
        Originates none node origin ∧
        failure.chain =
          steps.map (fun step => ⟨origin.status, .argument step.1 step.2⟩) ++ origin.chain := by
  let missing : Leaf := .supplied ⟨"x", .boolean, fun _ => .error (.of (.noContent "x"))⟩
  let disjunction : Expr := .apply (.firstOrder (Library.connective .or "or" [.boolean]))
    [.constant (.ofBool false), .leaf missing]
  have hdisjunction : disjunction.Built (Leaf.Typed none) := by
    refine .apply (Library.mem_standard_of_logic (by simp [Library.logic])) ?_ rfl
    rw [List.forall_mem_cons, List.forall_mem_singleton]
    exact ⟨.constant trivial, .leaf (by rintro v ⟨⟩)⟩
  have hbuilt : (Expr.apply (.firstOrder Library.negation)
      [.reference "v" disjunction 0]).Built (Leaf.Typed none) :=
    .apply (Library.mem_standard_of_logic (by simp [Library.logic]))
      (List.forall_mem_singleton.2 (.reference hdisjunction)) rfl
  exact ⟨_, _, hbuilt, rfl, rfl, hbuilt.failure_chain (c := .empty 0) rfl⟩

end Expr

end Xacml
