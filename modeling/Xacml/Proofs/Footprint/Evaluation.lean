/-
Evaluation depends on nothing but what a tree names. The store of compiled patterns is shared by all
evaluations, so its contents and its capacity tell of what was evaluated before; but whatever it
holds is the compiled form of its text, so that a pattern is the same from the store or compiled
again. Two contexts that show the leaves of a tree the same are the same to the tree.
-/
import Xacml.Proofs.Evaluation.Alike
import Xacml.Proofs.Expr.Leaves
import Xacml.Proofs.Footprint.Context
import Xacml.Proofs.Scope.Session

namespace Xacml

open Eval

/-! ## The store of patterns -/

namespace Pattern.Cache

/-- Every entry is the compiled form of its text. -/
def Faithful (c : Cache) : Prop := ∀ entry ∈ c.entries, compile? entry.1 = some entry.2

theorem faithful_empty (capacity : Nat) : (empty capacity).Faithful := List.forall_mem_nil _

theorem Faithful.use {c : Cache} (h : c.Faithful) {text : String} {p : Pattern}
    (hp : compile? text = some p) : (c.use text p).Faithful := by
  intro entry hentry
  rcases List.mem_cons.1 (List.mem_of_mem_take hentry) with rfl | hentry
  · exact hp
  · exact h entry (List.mem_filter.1 hentry).1

/-- What is asked of a faithful store is answered as by compiling, and leaves a faithful store. -/
theorem Faithful.request {c : Cache} (h : c.Faithful) (text : String) :
    (c.request text).1 = compile? text ∧ (c.request text).2.Faithful := by
  unfold Cache.request
  cases hlookup : c.entries.lookup text with
  | some p =>
    obtain ⟨before, after, hentries, -⟩ := List.lookup_eq_some_iff.1 hlookup
    have hp : compile? text = some p := h (text, p) (by rw [hentries]; simp)
    exact ⟨hp.symm, h.use hp⟩
  | none =>
    cases hp : compile? text with
    | some p => exact ⟨rfl, h.use hp⟩
    | none => exact ⟨rfl, h⟩

end Pattern.Cache

/-- Runs from faithful stores; the same events take place in both. -/
def Likeness.faithful : Likeness where
  caches c c' := c.Faithful ∧ c'.Faithful
  logs := Eq
  request text h := by
    obtain ⟨hfound, hleft⟩ := h.1.request text
    obtain ⟨hfound', hleft'⟩ := h.2.request text
    exact ⟨hfound.trans hfound'.symm, hleft, hleft'⟩
  nil := rfl
  append h h' := congrArg₂ (· ++ ·) h h'
  own _ := rfl

/-! ## Trees -/

/-- Contexts in which the leaves of a tree answer alike are the same to the tree. -/
theorem Expr.eval_alike {ctx ctx' : Option Context} {e : Expr}
    (h : ∀ l ∈ e.leaves, l.answer ctx = l.answer ctx') :
    Likeness.faithful.Alike (e.eval ctx) (e.eval ctx') := by
  induction e using Expr.induction with
  | constant v =>
    rw [eval, eval]
    exact Likeness.alike_ok _ v
  | leaf l =>
    rw [eval, eval, Leaf.eval, Leaf.eval, h l (by rw [leaves]; exact List.mem_singleton_self l)]
    exact Likeness.Alike.bind (fun c c' hc => ⟨rfl, hc, rfl⟩) fun _ => Likeness.alike_done _ _
  | reference _ definition _ ih =>
    rw [eval, eval]
    exact ih (by rwa [leaves] at h)
  | apply f arguments ih =>
    rw [eval_apply, eval_apply]
    rw [leaves, leavesOfAll_eq] at h
    refine Likeness.alike_run ?_ [] []
    rw [List.forall₂_map_left_iff, List.forall₂_map_right_iff, List.forall₂_same]
    intro e he
    exact ⟨rfl, ih e he fun l hl => h l (List.mem_flatMap_of_mem he hl)⟩

/-- An evaluation leaves a faithful store. -/
theorem Expr.eval_faithful (ctx : Option Context) (e : Expr) {c : Pattern.Cache}
    (h : c.Faithful) : (e.eval ctx c).cache.Faithful :=
  (eval_alike (fun _ _ => rfl) c c ⟨h, h⟩).2.1.1

/-! ## Sessions -/

namespace Session

variable {N N' : String → Prop} {L L' : Leaf → Prop} {s s' : Session}

theorem Step.faithful (h : Step N L s s') (hs : s.scope.patterns.Faithful) :
    s'.scope.patterns.Faithful := by
  cases h with
  | define _ hdefine =>
    cases Scope.define_eq_ok hdefine
    exact hs
  | declare hdeclare =>
    cases Scope.declare_eq_ok hdeclare
    exact hs
  | evaluate ctx _ => exact Expr.eval_faithful ctx _ hs
  | _ => exact hs

theorem Reachable.faithful (h : Reachable N L s) : s.scope.patterns.Faithful := by
  induction h with
  | start _ hscope =>
    unfold Scope.ofSettings Settings.validate at hscope
    split at hscope <;> cases hscope
    exact Pattern.Cache.faithful_empty _
  | step _ hstep ih => exact hstep.faithful ih

end Session

/-! ## Independence -/

/-- Two contexts that show the leaves of a tree the same give the tree the same result, from any two
faithful stores; and so do the scopes of any two sessions, whatever has become of them before and
whatever their stores can hold. -/
theorem Expr.eval_independent {e : Expr} {ctx ctx' : Option Context}
    (hctx : ∀ l ∈ e.leaves, l.SeesAlike ctx ctx') :
    (∀ c c' : Pattern.Cache, c.Faithful → c'.Faithful →
      (e.eval ctx c).result = (e.eval ctx' c').result) ∧
    ∀ (N N' : String → Prop) (L L' : Leaf → Prop) (s s' : Session),
      Session.Reachable N L s → Session.Reachable N' L' s' →
      (s.scope.run (e.eval ctx)).1.result = (s'.scope.run (e.eval ctx')).1.result := by
  have halike := Expr.eval_alike fun l hl => (hctx l hl).answer_eq
  refine ⟨fun c c' hc hc' => (halike c c' ⟨hc, hc'⟩).1, fun _ _ _ _ s s' hs hs' => ?_⟩
  exact (halike _ _ ⟨hs.faithful, hs'.faithful⟩).1

/-- A pattern that is taken from the request, with stores of different capacities and requests that
differ in another attribute. -/
theorem Expr.eval_independent_pattern :
    ∃ (e : Expr) (r r' : Request) (s s' : Session),
      e.leaves ≠ [] ∧ r.attributes ≠ r'.attributes ∧
      s.scope.patterns.capacity = 64 ∧ s'.scope.patterns.capacity = 0 ∧
      (∀ l ∈ e.leaves, l.SeesAlike (some r.context) (some r'.context)) ∧
      Session.Reachable (fun _ => True) (fun _ => True) s ∧
      Session.Reachable (fun _ => True) (fun _ => True) s' ∧
      (s.scope.run (e.eval (some r.context))).1.result =
        (s'.scope.run (e.eval (some r'.context))).1.result := by
  let asked : AttributeName := ⟨"subject", "pattern", none⟩
  let lookup : Leaf := .designator ⟨asked, .string, true, .request⟩
  let e : Expr := .apply (.firstOrder (Library.regexpMatch "1.0" .string))
    [.apply (.firstOrder (Library.oneAndOnly .string)) [.leaf lookup],
      .constant (.single (.string "ab"))]
  let r := Request.empty.addValue asked (.string "a.")
  let r' := r.addValue ⟨"subject", "other", none⟩ (.integer 7)
  have hleaves : ∀ l ∈ e.leaves, l.SeesAlike (some r.context) (some r'.context) := by
    have hlookup : e.leaves = [lookup] := rfl
    rw [hlookup, List.forall_mem_singleton]
    exact .some rfl
  have hscope : Scope.ofSettings .standard =
      .ok ⟨.standard, ⟨Library.standard⟩, .empty none, .empty 64, none⟩ := rfl
  have hscope' : Scope.ofSettings ⟨none, 0, false⟩ =
      .ok ⟨⟨none, 0, false⟩, ⟨Library.standard⟩, .empty none, .empty 0, none⟩ := rfl
  have hs := Session.Reachable.start (N := fun _ => True) (L := fun _ => True) none hscope
  have hs' := Session.Reachable.start (N := fun _ => True) (L := fun _ => True) none hscope'
  exact ⟨e, r, r', _, _, List.cons_ne_nil _ _, by decide, rfl, rfl, hleaves, hs, hs',
    (Expr.eval_independent hleaves).2 _ _ _ _ _ _ hs hs'⟩

end Xacml
