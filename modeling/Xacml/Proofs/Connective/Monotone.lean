/-
Logical trees. An answer that a tree of connectives and negations gives although some of its leaves
have failed is the answer that it gives whatever those leaves might have been: the connectives
absorb failures, negation hands them on, and neither ever guesses.
-/
import Mathlib.Data.List.Forall2
import Xacml.Evaluation.Expr
import Xacml.Proofs.Connective.Threshold

namespace Xacml

open Eval Tally

/-! ## More information -/

/-- `s` is the answer `r`, unless `r` has failed. -/
def Truth.Le (r s : Truth) : Prop := ∀ b, r = .ok b → s = .ok b

theorem tally_le {as bs : List Truth} (h : List.Forall₂ Truth.Le as bs) :
    trues as ≤ trues bs ∧ trues bs + failed bs ≤ trues as + failed as := by
  induction h with
  | nil => exact ⟨Nat.le_refl _, Nat.le_refl _⟩
  | @cons a b _ _ hab _ ih =>
    rcases a with e | (_ | _)
    · -- a failure may become anything, and counts for both bounds until then
      rcases b with e' | (_ | _) <;> simp <;> omega
    · rw [hab false rfl]; simpa using ih
    · rw [hab true rfl]; simp; omega

/-- What a threshold answers is answered as well if more is known of the arguments. -/
theorem Threshold.mono {id : String} {first k : Nat} {args args' : List (Eval Value)}
    {c c' : Pattern.Cache} {o o' : Outcome Value} (h : Threshold id first k args c o)
    (h' : Threshold id first k args' c' o')
    (hle : List.Forall₂ Truth.Le (truths args c) (truths args' c')) {b : Bool}
    (hb : o.result = .ok (.ofBool b)) : o'.result = .ok (.ofBool b) := by
  obtain ⟨htrues, hmost⟩ := tally_le hle
  cases b with
  | true => exact h'.isTrue.2 (Nat.le_trans (h.isTrue.1 hb) htrues)
  | false => exact h'.isFalse.2 (Nat.lt_of_le_of_lt hmost (h.isFalse.1 hb))

/-! ## Trees -/

/-- A tree of logical functions over leaves of type `ι`. -/
inductive LogicTree (ι : Type) where
  | leaf (i : ι)
  | or (trees : List (LogicTree ι))
  | and (trees : List (LogicTree ι))
  | not (tree : LogicTree ι)
  | nOf (count : Int64) (trees : List (LogicTree ι))

namespace LogicTree

variable {ι : Type}

theorem induction {P : LogicTree ι → Prop} (leaf : ∀ i, P (.leaf i))
    (or : ∀ trees, (∀ t ∈ trees, P t) → P (.or trees))
    (and : ∀ trees, (∀ t ∈ trees, P t) → P (.and trees))
    (not : ∀ tree, P tree → P (.not tree))
    (nOf : ∀ count trees, (∀ t ∈ trees, P t) → P (.nOf count trees)) (t : LogicTree ι) : P t :=
  @LogicTree.rec ι P (fun trees => ∀ t ∈ trees, P t) leaf or and not nOf (List.forall_mem_nil _)
    (fun _ _ ht htrees => List.forall_mem_cons.2 ⟨ht, htrees⟩) t

mutual

/-- The tree as an expression whose leaves answer as assigned. -/
def expr (ρ : ι → Truth) (t : LogicTree ι) : Expr :=
  match t with
  | leaf i => .leaf (.supplied ⟨"leaf", .boolean, fun _ => (ρ i).map .ofBool⟩)
  | or trees => .apply (.firstOrder (Library.connective .or "or" [.boolean])) (exprs ρ trees)
  | and trees => .apply (.firstOrder (Library.connective .and "and" [.boolean])) (exprs ρ trees)
  | not tree => .apply (.firstOrder Library.negation) [expr ρ tree]
  | nOf count trees =>
    .apply (.firstOrder (Library.connective .nOf "n-of" [.integer, .boolean]))
      (.constant (.single (.integer count)) :: exprs ρ trees)
termination_by structural t

def exprs (ρ : ι → Truth) (ts : List (LogicTree ι)) : List Expr :=
  match ts with
  | [] => []
  | t :: rest => expr ρ t :: exprs ρ rest
termination_by structural ts

end

theorem exprs_eq (ρ : ι → Truth) (ts : List (LogicTree ι)) : exprs ρ ts = ts.map (expr ρ) := by
  induction ts with
  | nil => simp [exprs]
  | cons t rest ih => simp [exprs, ih]

end LogicTree

/-! ## Applications -/

theorem callArguments_operand (ctx : Option Context) (es : List Expr) :
    callArguments (es.map (Expr.operand ctx)) [] = es.map (Expr.eval ctx) := by
  rw [callArguments, List.map_map, List.map_nil, List.append_nil]
  rfl

/-- A negation answers with the opposite of its argument's answer, or its argument has failed. -/
theorem negation_run {x : Operand} (hx : x.eval.IsBoolean) (c : Pattern.Cache) :
    (∃ b, (x.eval c).result = .ok (.ofBool b) ∧
      (Library.negation.run [x] [] [] c).result = .ok (.ofBool !b)) ∨
    ∃ e e', (x.eval c).result = .error e ∧
      (Library.negation.run [x] [] [] c).result = .error e' := by
  cases hr : (x.eval c).result with
  | error e => exact .inr ⟨e, _, rfl, unary_run_of_error hr⟩
  | ok v =>
    obtain ⟨b, rfl⟩ := hx c v hr
    exact .inl ⟨b, rfl, unary_run_of_ok hr⟩

/-- A connective answers with a boolean, if at all. -/
theorem connective_isBoolean (k : Connective) (name : String) (parameters : List Datatype)
    (operands : List Operand) :
    IsBoolean ((Library.connective k name parameters).run operands [] []) := by
  intro c v hv
  rw [run_connective (k := k) rfl rfl] at hv
  cases hr : (runConnective k (Library.connective k name parameters).id operands
      (callArguments operands []).length [] c).result with
  | error e => simp only [hr] at hv; cases hv
  | ok b => simp only [hr] at hv; cases hv; exact ⟨b, rfl⟩

/-- Arguments that answer at least what others answer are known at least as well. -/
theorem truths_le {α : Type} {f g : α → Eval Value} {as : List α} (hf : ∀ a ∈ as, (f a).IsBoolean)
    (h : ∀ a ∈ as, ∀ c c' b, (f a c).result = .ok (.ofBool b) → (g a c').result = .ok (.ofBool b))
    (c c' : Pattern.Cache) :
    List.Forall₂ Truth.Le (truths (as.map f) c) (truths (as.map g) c') := by
  induction as generalizing c c' with
  | nil => exact .nil
  | cons a rest ih =>
    rw [List.forall_mem_cons] at hf h
    refine .cons (fun b hb => ?_) (ih hf.2 h.2 _ _)
    cases hr : (f a c).result with
    | error e => rw [hr] at hb; cases hb
    | ok v =>
      obtain ⟨b', rfl⟩ := hf.1 c v hr
      rw [hr] at hb
      cases hb
      rw [h.1 c c' b' hr]
      rfl

namespace LogicTree

variable {ι : Type} {ρ ρ' : ι → Truth}

/-! ## Evaluating trees -/

theorem leaf_result (ρ : ι → Truth) (i : ι) (ctx : Option Context) (c : Pattern.Cache) :
    ((expr ρ (.leaf i)).eval ctx c).result = (ρ i).map .ofBool := by
  rw [expr, Expr.eval]
  rfl

theorem isBoolean (t : LogicTree ι) (ρ : ι → Truth) (ctx : Option Context) :
    ((t.expr ρ).eval ctx).IsBoolean := by
  induction t using LogicTree.induction with
  | leaf i =>
    intro c v hv
    rw [leaf_result] at hv
    cases hρ : ρ i with
    | error e => rw [hρ] at hv; cases hv
    | ok b => rw [hρ] at hv; cases hv; exact ⟨b, rfl⟩
  | or ts _ => rw [expr, Expr.eval_apply]; exact connective_isBoolean _ _ _ _
  | and ts _ => rw [expr, Expr.eval_apply]; exact connective_isBoolean _ _ _ _
  | nOf count ts _ => rw [expr, Expr.eval_apply]; exact connective_isBoolean _ _ _ _
  | not t ih =>
    intro c v hv
    rw [expr, Expr.eval_apply] at hv
    obtain ⟨b, -, hb⟩ | ⟨_, e, -, he⟩ := negation_run (x := (t.expr ρ).operand ctx) ih c
    · cases hb.symm.trans hv; exact ⟨!b, rfl⟩
    · cases he.symm.trans hv

theorem arguments_eq (ρ : ι → Truth) (ctx : Option Context) (ts : List (LogicTree ι)) :
    callArguments ((exprs ρ ts).map (Expr.operand ctx)) [] =
      ts.map fun t => (t.expr ρ).eval ctx := by
  rw [callArguments_operand, exprs_eq, List.map_map]
  rfl

theorem arguments_isBoolean (ρ : ι → Truth) (ctx : Option Context) (ts : List (LogicTree ι)) :
    ∀ x ∈ ts.map (fun t => (t.expr ρ).eval ctx), x.IsBoolean :=
  List.forall_mem_map.2 fun t _ => isBoolean t ρ ctx

section Nodes

variable (ρ : ι → Truth) (ctx : Option Context) (ts : List (LogicTree ι)) (c : Pattern.Cache)

theorem or_eval : Threshold (Library.connective .or "or" [.boolean]).id 0 1
    (ts.map fun t => (t.expr ρ).eval ctx) c ((expr ρ (.or ts)).eval ctx c) := by
  rw [expr, Expr.eval_apply, ← arguments_eq]
  refine or_threshold rfl rfl ?_ c
  rw [arguments_eq]
  exact arguments_isBoolean ρ ctx ts

theorem and_eval : Threshold (Library.connective .and "and" [.boolean]).id 0 ts.length
    (ts.map fun t => (t.expr ρ).eval ctx) c ((expr ρ (.and ts)).eval ctx c) := by
  have hlength : ts.length = (callArguments ((exprs ρ ts).map (Expr.operand ctx)) []).length := by
    rw [arguments_eq, List.length_map]
  rw [expr, Expr.eval_apply, ← arguments_eq, hlength]
  refine and_threshold rfl rfl ?_ c
  rw [arguments_eq]
  exact arguments_isBoolean ρ ctx ts

/-- A count out of bounds fails, whatever the leaves. -/
theorem nOf_eval (count : Int64) :
    (count.toInt < 0 ∨ ts.length < count.toInt →
      ∃ e, ((expr ρ (.nOf count ts)).eval ctx c).result = .error e) ∧
    (0 ≤ count.toInt → count.toInt ≤ ts.length → ∃ o,
      Threshold (Library.connective .nOf "n-of" [.integer, .boolean]).id 1 count.toInt.toNat
        (ts.map fun t => (t.expr ρ).eval ctx) c o ∧
      ((expr ρ (.nOf count ts)).eval ctx c).result = o.result) := by
  have hargs : callArguments
      ((Expr.constant (.single (.integer count)) :: exprs ρ ts).map (Expr.operand ctx)) [] =
        .ok (.single (.integer count)) :: ts.map fun t => (t.expr ρ).eval ctx := by
    rw [← arguments_eq, callArguments_operand, List.map_cons, Expr.eval, callArguments_operand]
  have hlen : ([] : List AttributeType).length = ([] : List AttributeValue).length := rfl
  have h := (nOf_threshold (f := Library.connective .nOf "n-of" [.integer, .boolean]) rfl hlen c
    hargs (arguments_isBoolean ρ ctx ts)).2 count rfl
  rw [List.length_map] at h
  obtain ⟨hout, -, hin⟩ := h
  rw [expr, Expr.eval_apply]
  refine ⟨fun h => ?_, fun hpos hle => ?_⟩
  · obtain ⟨p, -, hp⟩ := hout h
    exact ⟨.of p, congrArg Outcome.result hp⟩
  · obtain ⟨o, ho, hrun⟩ := hin hpos hle
    exact ⟨o, ho, congrArg Outcome.result hrun⟩

theorem not_eval (t : LogicTree ι) {b : Bool} : ((expr ρ (.not t)).eval ctx c).result =
    .ok (.ofBool b) ↔ ((t.expr ρ).eval ctx c).result = .ok (.ofBool !b) := by
  rw [expr, Expr.eval_apply]
  show (Library.negation.run [(t.expr ρ).operand ctx] [] [] c).result = _ ↔
    (((t.expr ρ).operand ctx).eval c).result = _
  obtain ⟨b', hb', hb⟩ | ⟨e, e', he, he'⟩ :=
    negation_run (x := (t.expr ρ).operand ctx) (isBoolean t ρ ctx) c
  · rw [hb, hb']
    cases b <;> cases b' <;> simp [Value.ofBool]
  · rw [he, he']
    constructor <;> rintro ⟨⟩

end Nodes

/-- If a tree answers although some leaves have failed, it gives the same answer whatever is put in
the place of those leaves, in every context and with every store of patterns. -/
theorem answer_mono (hρ : ∀ i, Truth.Le (ρ i) (ρ' i)) (t : LogicTree ι) {ctx : Option Context}
    {c : Pattern.Cache} {b : Bool} (hb : ((t.expr ρ).eval ctx c).result = .ok (.ofBool b))
    (ctx' : Option Context) (c' : Pattern.Cache) :
    ((t.expr ρ').eval ctx' c').result = .ok (.ofBool b) := by
  induction t using LogicTree.induction generalizing b c c' with
  | leaf i =>
    rw [leaf_result] at hb ⊢
    cases hr : ρ i with
    | error e => rw [hr] at hb; cases hb
    | ok b' => rw [hr] at hb; rw [hρ i b' hr, ← hb]
  | or ts ih =>
    have hle := truths_le (fun t _ => isBoolean t ρ ctx) fun t ht c c' b hb => ih t ht hb c'
    exact (or_eval ρ ctx ts c).mono (or_eval ρ' ctx' ts c') (hle c c') hb
  | and ts ih =>
    have hle := truths_le (fun t _ => isBoolean t ρ ctx) fun t ht c c' b hb => ih t ht hb c'
    exact (and_eval ρ ctx ts c).mono (and_eval ρ' ctx' ts c') (hle c c') hb
  | not t ih => exact (not_eval ρ' ctx' c' t).2 (ih ((not_eval ρ ctx c t).1 hb) c')
  | nOf count ts ih =>
    have hle := truths_le (fun t _ => isBoolean t ρ ctx) fun t ht c c' b hb => ih t ht hb c'
    obtain ⟨hout, hin⟩ := nOf_eval ρ ctx ts c count
    -- the count is a constant: it is out of bounds in both runs or in neither
    by_cases h : count.toInt < 0 ∨ ts.length < count.toInt
    · obtain ⟨e, he⟩ := hout h
      cases he.symm.trans hb
    · obtain ⟨o, ho, hr⟩ := hin (by omega) (by omega)
      obtain ⟨o', ho', hr'⟩ := (nOf_eval ρ' ctx' ts c' count).2 (by omega) (by omega)
      rw [hr']
      exact ho.mono ho' (hle c c') (hr ▸ hb)

/-- Two of three are true although the third has failed. -/
theorem answer_mono_two_of_three :
    ((expr (fun i : Fin 3 => if i = 1 then .error (.of (.noContent "x")) else .ok true)
      (.nOf 2 [.leaf 0, .not (.not (.leaf 1)), .leaf 2])).eval none (.empty 0)).result =
        .ok (.ofBool true) ∧
    ∀ ctx c, ((expr (fun i : Fin 3 => .ok (i ≠ 1))
      (.nOf 2 [.leaf 0, .not (.not (.leaf 1)), .leaf 2])).eval ctx c).result =
        .ok (.ofBool true) := by
  have hb : ((expr (fun i : Fin 3 => if i = 1 then .error (.of (.noContent "x")) else .ok true)
      (.nOf 2 [.leaf 0, .not (.not (.leaf 1)), .leaf 2])).eval none (.empty 0)).result =
        .ok (.ofBool true) := rfl
  refine ⟨hb, answer_mono (fun i b h => ?_) _ hb⟩
  by_cases hi : i = 1
  · rw [if_pos hi] at h; cases h
  · rw [if_neg hi] at h; cases h; simp [hi]

end LogicTree

end Xacml
