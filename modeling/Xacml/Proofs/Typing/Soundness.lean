/-
Soundness of the checks made when expressions are built. Whatever a factory of the standard library
hands out evaluates, in every context that answers with bags of the types asked for and in none, to
a value of the datatype that it declares, or to a failure in which no mismatch is named, except
those that came from outside; and every kernel that is run on the way makes do with its arguments.
-/
import Xacml.Proofs.Scope.Session
import Xacml.Proofs.Typing.Leaf

namespace Xacml

open Eval

/-! ## Trees -/

namespace Expr

variable {L : Leaf → Prop} {e node : Expr} {steps : List (String × Nat)} {ctx : Option Context}

theorem Built.descends (h : e.Built L) (hd : e.Descends steps node) : node.Built L := by
  induction hd with
  | here => exact h
  | reference _ ih =>
    cases h with
    | reference h => exact ih h
  | argument hi _ ih =>
    cases h with
    | apply _ hbuilt _ => exact ih (hbuilt _ (List.mem_of_getElem? hi))

/-- The frame was handed over to a leaf of the tree from outside. -/
def HandsOn (ctx : Option Context) (e : Expr) (frame : Frame) : Prop :=
  ∃ steps l, e.Descends steps (.leaf l) ∧ l.HandsOn ctx frame

end Expr

/-- What a function raises itself names no mismatch. -/
theorem FirstOrder.Raises.noMismatchBut {A : Frame → Prop} {g : FirstOrderFunction} {e : Failure}
    (h : g.Raises e) : e.NoMismatchBut A := by
  cases h with
  | kernel _ _ _ hp => exact (noMismatchBut_of hp).wrap rfl
  | negativeCount _ _ => exact noMismatchBut_of rfl
  | tooFewArguments _ _ => exact noMismatchBut_of rfl
  | pattern _ _ => exact noMismatchBut_of rfl

theorem Callable.Raises.noMismatchBut {A : Frame → Prop} {f : Function} {first : Option Value}
    {e : Failure} (h : f.Raises first e) : e.NoMismatchBut A := by
  cases f with
  | firstOrder g => exact FirstOrder.Raises.noMismatchBut h
  | combinator c =>
    obtain ⟨g, -, h⟩ := h
    exact h.noMismatchBut

theorem Failure.NoMismatchBut.throughArguments {A : Frame → Prop} {origin : Failure}
    (h : origin.NoMismatchBut A) (steps : List (String × Nat)) :
    (Expr.throughArguments steps origin).NoMismatchBut A := by
  induction steps with
  | nil => exact h
  | cons step rest ih => exact ih.wrap rfl

namespace Expr

variable {e : Expr} {ctx : Option Context}

/-- A tree over leaves that ask the request evaluates to a value of its datatype, or to a failure
that names no mismatch of its own. -/
theorem Built.eval_sound (hctx : ∀ c ∈ ctx, c.Typed) (h : e.Built Leaf.OfRequest) :
    (e.eval ctx).Ensures Event.Sound (·.HasType e.datatype)
      (Failure.NoMismatchBut (e.HandsOn ctx)) := by
  have htyped : ∀ l : Leaf, l.OfRequest → l.Typed ctx := fun l hl v hv =>
    (settles_iff.1 (hl.answer_settles hctx)).1 v hv
  refine (h.imp htyped).eval_ensures.weaken ?_
  rintro _ ⟨steps, node, origin, hd, ho, rfl⟩
  refine Failure.NoMismatchBut.throughArguments ?_ steps
  cases ho with
  | @leaf l _ ho =>
    cases h.descends hd with
    | leaf hl =>
      intro frame hf hm
      have hanswer := (settles_iff.1 (hl.answer_settles hctx)).2 _ ho
      exact ⟨steps, l, hd, hanswer frame hf hm⟩
  | apply _ hr => exact hr.noMismatchBut

end Expr

/-! ## Conditions -/

/-- A condition is as good as its expression. -/
theorem Condition.eval_ensures {condition : Condition} {ctx : Option Context} {E : Event → Prop}
    {F : Failure → Prop}
    (h : (condition.expression.eval ctx).Ensures E (·.HasType condition.expression.datatype) F) :
    (condition.eval ctx).Ensures E (fun _ => True) F := by
  rw [condition.declared] at h
  refine Ensures.bind (P := fun v => v.type = .boolean) (h.bind fun v hv => ?_) fun v hv => ?_
  · obtain ⟨a, rfl, ha⟩ := Value.hasType_value_iff.1 hv
    exact ensures_ok ha
  · cases v with
    | boolean b => exact ensures_ok trivial
    | _ => cases hv

/-! ## Sessions -/

namespace Session

/-- The identifiers of the standard library. -/
def IsStandard (id : String) : Prop := ∃ f ∈ Library.standard, f.id = id

/-- Everything that a session holds is built: what it has handed out, and what its variables are
defined as. Functions that were declared come after those of the library. -/
structure Sound (L : Leaf → Prop) (s : Session) : Prop where
  functions : ∃ more, s.scope.functions.functions = Library.standard ++ more
  built : ∀ e ∈ s.built, e.Built L
  definitions : ∀ v ∈ s.scope.definitions.entries, v.definition.Built L

variable {L : Leaf → Prop} {s s' : Session}

theorem Sound.handOut (h : s.Sound L) {e : Expr} (he : e.Built L) : (s.handOut e).Sound L :=
  ⟨h.functions, List.forall_mem_cons.2 ⟨he, h.built⟩, h.definitions⟩

/-- A standard identifier names a function of the standard library, whatever has been declared. -/
theorem Sound.find_standard (h : s.Sound L) {id : String} (hid : IsStandard id) {f : Function}
    (hf : s.scope.functions.find? id = some f) : f ∈ Library.standard := by
  obtain ⟨more, hmore⟩ := h.functions
  obtain ⟨g, hg, rfl⟩ := hid
  unfold FunctionTable.find? at hf
  rw [hmore, List.find?_append] at hf
  cases hfind : Library.standard.find? (·.id == g.id) with
  | none => exact absurd (beq_self_eq_true g.id) (List.find?_eq_none.1 hfind g hg)
  | some f' =>
    rw [hfind] at hf
    cases hf
    exact List.mem_of_find?_eq_some hfind

theorem Step.sound {M : Leaf → Prop} (hM : ∀ l, M l → L l) (hselector : ∀ sel, L (.selector sel))
    (h : Step IsStandard M s s') (hs : s.Sound L) : s'.Sound L := by
  cases h with
  | value v => exact hs.handOut (.constant trivial)
  | bag b => exact hs.handOut (.constant trivial)
  | literal _ => exact hs.handOut (.constant trivial)
  | function hid he =>
    obtain ⟨f, hf, rfl⟩ := Scope.function_eq_ok he
    exact hs.handOut (.constant (hs.find_standard hid hf))
  | leaf hl => exact hs.handOut (.leaf (hM _ hl))
  | selector he =>
    obtain ⟨sel, rfl⟩ := Scope.selector_eq_ok he
    exact hs.handOut (.leaf (hselector sel))
  | apply hid hargs he =>
    obtain ⟨f, hf, hb, rfl⟩ := Scope.apply_eq_ok he
    exact hs.handOut (.apply (hs.find_standard hid hf) (fun a ha => hs.built a (hargs a ha)) hb)
  | reference he =>
    obtain ⟨v, hv, -, rfl⟩ := Scope.reference_eq_ok he
    exact hs.handOut (.reference (hs.definitions v hv))
  | define hd hdefine =>
    cases Scope.define_eq_ok hdefine
    exact ⟨hs.functions, hs.built, List.forall_mem_cons.2 ⟨hs.built _ hd, hs.definitions⟩⟩
  | remove id =>
    exact ⟨hs.functions, hs.built, fun v hv => hs.definitions v (List.mem_filter.1 hv).1⟩
  | @declare f _ hdeclare =>
    obtain ⟨more, hmore⟩ := hs.functions
    cases Scope.declare_eq_ok hdeclare
    refine ⟨⟨more ++ [.firstOrder f], ?_⟩, hs.built, hs.definitions⟩
    rw [← List.append_assoc, ← hmore]
    rfl
  | evaluate _ _ => exact ⟨hs.functions, hs.built, hs.definitions⟩

theorem Reachable.sound {M : Leaf → Prop} (hM : ∀ l, M l → L l)
    (hselector : ∀ sel, L (.selector sel)) (h : Reachable IsStandard M s) : s.Sound L := by
  induction h with
  | start _ hscope =>
    obtain ⟨hf, hd⟩ := Scope.ofSettings_eq_ok hscope
    refine ⟨⟨[], by rw [List.append_nil, hf]⟩, List.forall_mem_nil _, ?_⟩
    rw [hd]
    exact List.forall_mem_nil _
  | step _ hstep ih => exact hstep.sound hM hselector ih

/-- Whatever a factory hands out, built of constants, references to variables, leaves that ask the
request and applications of functions of the standard library, evaluates as it declares, and so do
the conditions made of it. -/
theorem Reachable.evaluation_sound (h : Reachable IsStandard Leaf.OfRequest s) {e : Expr}
    (he : e ∈ s.built) {ctx : Option Context} (hctx : ∀ c ∈ ctx, c.Typed) :
    (e.eval ctx).Ensures Event.Sound (·.HasType e.datatype)
        (Failure.NoMismatchBut (e.HandsOn ctx)) ∧
      ∀ condition, Condition.ofExpr e = .ok condition →
        (condition.eval ctx).Ensures Event.Sound (fun _ => True)
          (Failure.NoMismatchBut (e.HandsOn ctx)) := by
  have hbuilt := (h.sound (fun _ hl => hl) fun _ => trivial).built e he
  refine ⟨hbuilt.eval_sound hctx, fun condition hc => ?_⟩
  unfold Condition.ofExpr at hc
  split at hc
  · cases hc
    exact Condition.eval_ensures (hbuilt.eval_sound hctx)
  · cases hc

/-- A comparison of a subject's name with a string, for a request that gives the name. -/
theorem evaluation_sound_equal :
    ∃ (r : Request) (s : Session) (e : Expr),
      r = Request.empty.addValue ⟨"subject", "name", none⟩ (.string "a") ∧
      Reachable IsStandard Leaf.OfRequest s ∧ e ∈ s.built ∧ (∀ c ∈ some r.context, c.Typed) ∧
      (e.eval (some r.context) s.scope.patterns).result = .ok (.single (.boolean true)) ∧
      (e.eval (some r.context)).Ensures Event.Sound (·.HasType e.datatype)
        (Failure.NoMismatchBut (e.HandsOn (some r.context))) ∧
      ∀ condition, Condition.ofExpr e = .ok condition →
        (condition.eval (some r.context)).Ensures Event.Sound (fun _ => True)
          (Failure.NoMismatchBut (e.HandsOn (some r.context))) := by
  let r : Request := Request.empty.addValue ⟨"subject", "name", none⟩ (.string "a")
  let scope : Scope := ⟨.standard, ⟨Library.standard⟩, .empty none, .empty 64, none⟩
  let asked : Designator := ⟨⟨"subject", "name", none⟩, .string, true, .request⟩
  let one : Function := .firstOrder (Library.oneAndOnly .string)
  let equal : Function := .firstOrder (Library.equal .string)
  let found : Expr := .apply one [.leaf (.designator asked)]
  let a : Expr := .constant (.single (.string "a"))
  have hasked : (Leaf.designator asked).OfRequest := rfl
  have hfind : Library.standard.find? (·.id == one.id) = some one := rfl
  have hone : scope.apply one.id [.leaf (.designator asked)] = .ok found := rfl
  have hequal : scope.apply equal.id [found, a] = .ok (.apply equal [found, a]) := rfl
  have hscope : Scope.ofSettings .standard = .ok scope := rfl
  have hstart : Reachable IsStandard Leaf.OfRequest ⟨scope, []⟩ := .start none hscope
  have hs : Reachable IsStandard Leaf.OfRequest _ :=
    (((hstart.step (.leaf hasked)).step
      (.apply ⟨one, List.mem_of_find?_eq_some hfind, rfl⟩ (by simp [handOut]) hone)).step
        (.value (.string "a"))).step
          (.apply ⟨equal, List.mem_cons_self, rfl⟩ (by simp [handOut, found, a]) hequal)
  have hctx : ∀ c ∈ some r.context, c.Typed := by
    rintro _ ⟨⟩
    exact r.context_typed
  exact ⟨r, _, _, rfl, hs, List.mem_cons_self, hctx, rfl,
    hs.evaluation_sound List.mem_cons_self hctx⟩

end Session

end Xacml
