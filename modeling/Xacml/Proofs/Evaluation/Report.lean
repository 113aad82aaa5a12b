/-
What an evaluation is seen to do. It is started from a faithful store of patterns, events take place,
and it ends in a result; a steady evaluation shows the same from every such store. A search is told
by where it ends: at the first element that decides it or fails, after all those before it, or after
all there are. A collection ends at the first element that fails, or has something of each.
-/
import Xacml.Proofs.Evaluation.Answer

namespace Xacml

open Eval

variable {α β : Type}

/-! ## Reports -/

namespace Eval

/-- What takes place in an evaluation when no pattern has been stored. -/
def trace (x : Eval α) : List Event := (x (.empty 0)).events

/-- From every faithful store the events take place and the evaluation ends in `r`, with a faithful
store again. -/
def Reports (x : Eval α) (r : Except Failure α) (events : List Event) : Prop :=
  ∀ c : Pattern.Cache, c.Faithful →
    (x c).result = r ∧ (x c).events = events ∧ (x c).cache.Faithful

section Rules

variable {x y : Eval α} {f : α → Eval β} {r : Except Failure α} {events following : List Event}

theorem reports_done (r : Except Failure α) : (done r).Reports r [] := fun _ hc => ⟨rfl, rfl, hc⟩

theorem reports_ok (a : α) : (ok a).Reports (.ok a) [] := reports_done _

theorem Steady.reports (h : x.Steady) : x.Reports x.answer x.trace := by
  intro c hc
  obtain ⟨hresult, ⟨hleft, -⟩, hevents⟩ := h c (.empty 0) ⟨hc, Pattern.Cache.faithful_empty 0⟩
  exact ⟨hresult, hevents, hleft⟩

theorem Reports.answer_eq (h : x.Reports r events) : x.answer = r :=
  (h _ (Pattern.Cache.faithful_empty 0)).1

theorem Reports.trace_eq (h : x.Reports r events) : x.trace = events :=
  (h _ (Pattern.Cache.faithful_empty 0)).2.1

theorem Reports.steady (h : x.Reports r events) : x.Steady := by
  intro c c' hc
  obtain ⟨hresult, hevents, hleft⟩ := h c hc.1
  obtain ⟨hresult', hevents', hleft'⟩ := h c' hc.2
  exact ⟨hresult.trans hresult'.symm, ⟨hleft, hleft'⟩, hevents.trans hevents'.symm⟩

/-- Evaluations that are alike report the same. -/
theorem Reports.of_alike (hy : y.Reports r events) (h : Likeness.faithful.Alike x y) :
    x.Reports r events := by
  intro c hc
  obtain ⟨hresult, ⟨hleft, -⟩, hevents⟩ := h c c ⟨hc, hc⟩
  obtain ⟨hr, hl, -⟩ := hy c hc
  exact ⟨hresult.trans hr, hevents.trans hl, hleft⟩

theorem Reports.bind {a : α} {r : Except Failure β} (hx : x.Reports (.ok a) events)
    (hf : (f a).Reports r following) : (x >>= f).Reports r (events ++ following) := by
  intro c hc
  obtain ⟨hresult, hevents, hleft⟩ := hx c hc
  obtain ⟨hresult', hevents', hleft'⟩ := hf _ hleft
  rw [bind_apply, andThen, hresult]
  exact ⟨hresult', congrArg₂ (· ++ ·) hevents hevents', hleft'⟩

theorem Reports.bind_error {e : Failure} (hx : x.Reports (.error e) events) :
    (x >>= f).Reports (.error e) events := by
  intro c hc
  obtain ⟨hresult, hevents, hleft⟩ := hx c hc
  rw [bind_apply, andThen, hresult]
  exact ⟨rfl, hevents, hleft⟩

theorem Reports.map (hx : x.Reports r events) (f : α → β) :
    (x >>= fun a => pure (f a)).Reports (r.map f) events := by
  cases r with
  | error e => exact hx.bind_error
  | ok a =>
    have hboth := hx.bind (f := fun a => pure (f a)) (reports_ok (f a))
    rwa [List.append_nil] at hboth

theorem Reports.mapFailure (hx : x.Reports r events) (g : Failure → Failure) :
    (x.mapFailure g).Reports (r.mapError g) events := by
  intro c hc
  obtain ⟨hresult, hrest⟩ := hx c hc
  exact ⟨congrArg (Except.mapError g) hresult, hrest⟩

end Rules

end Eval

/-! ## Searches -/

/-- A search for `d` through candidates that are tested in order. It ends with `d` at the first one
that gives it, or with the failure of the first one that fails, and none after that one is tested;
otherwise all are tested, and it ends with the other boolean. -/
inductive SearchEnds (d : Bool) (test : α → Eval Bool) (as : List α) :
    Except Failure Bool → List Event → Prop
  | decided {before after : List α} {a : α} (split : as = before ++ a :: after)
      (passed : ∀ b ∈ before, (test b).answer = .ok !d) (here : (test a).answer = .ok d) :
      SearchEnds d test as (.ok d) ((before ++ [a]).flatMap fun b => (test b).trace)
  | failed {before after : List α} {a : α} {e : Failure} (split : as = before ++ a :: after)
      (passed : ∀ b ∈ before, (test b).answer = .ok !d) (here : (test a).answer = .error e) :
      SearchEnds d test as (.error e) ((before ++ [a]).flatMap fun b => (test b).trace)
  | exhausted (passed : ∀ a ∈ as, (test a).answer = .ok !d) :
      SearchEnds d test as (.ok !d) (as.flatMap fun a => (test a).trace)

section Searches

variable {d : Bool} {test : α → Eval Bool} {as : List α} {a : α} {r : Except Failure Bool}
  {events : List Event}

/-- A candidate that does not end the search leaves it to the others. -/
theorem SearchEnds.cons (ha : (test a).answer = .ok !d) (h : SearchEnds d test as r events) :
    SearchEnds d test (a :: as) r ((test a).trace ++ events) := by
  cases h with
  | decided split passed here =>
    exact .decided (congrArg (a :: ·) split) (List.forall_mem_cons.2 ⟨ha, passed⟩) here
  | failed split passed here =>
    exact .failed (congrArg (a :: ·) split) (List.forall_mem_cons.2 ⟨ha, passed⟩) here
  | exhausted passed => exact .exhausted (List.forall_mem_cons.2 ⟨ha, passed⟩)

theorem searchEnds_head (ha : (test a).answer = .ok d) :
    SearchEnds d test (a :: as) (.ok d) (test a).trace := by
  have hends : SearchEnds d test (a :: as) (.ok d) (([] ++ [a]).flatMap fun b => (test b).trace) :=
    .decided rfl (List.forall_mem_nil _) ha
  rwa [List.nil_append, List.flatMap_singleton] at hends

theorem searchEnds_head_error {e : Failure} (ha : (test a).answer = .error e) :
    SearchEnds d test (a :: as) (.error e) (test a).trace := by
  have hends : SearchEnds d test (a :: as) (.error e) (([] ++ [a]).flatMap fun b => (test b).trace) :=
    .failed rfl (List.forall_mem_nil _) ha
  rwa [List.nil_append, List.flatMap_singleton] at hends

/-- Searching steady candidates ends so. -/
theorem reports_seek (htest : ∀ a, (test a).Steady) (as : List α) :
    ∃ r events, SearchEnds d test as r events ∧ (seek d test as).Reports r events := by
  -- the first candidate ends the search, or leaves the end to the others
  induction as with
  | nil => exact ⟨_, _, .exhausted (List.forall_mem_nil _), reports_ok _⟩
  | cons a rest ih =>
    have hfirst := (htest a).reports
    rw [seek]
    cases ha : (test a).answer with
    | error e =>
      rw [ha] at hfirst
      exact ⟨_, _, searchEnds_head_error ha, hfirst.bind_error⟩
    | ok b =>
      rw [ha] at hfirst
      by_cases hb : b = d
      · subst hb
        have hstop : (if b = b then ok b else seek b test rest).Reports (.ok b) [] := by
          rw [if_pos rfl]
          exact reports_ok b
        have hboth := hfirst.bind (f := fun b' => if b' = b then ok b else seek b test rest) hstop
        rw [List.append_nil] at hboth
        exact ⟨_, _, searchEnds_head ha, hboth⟩
      · obtain ⟨r, events, hends, hreports⟩ := ih
        refine ⟨r, _, hends.cons (ha.trans (congrArg _ (Bool.eq_not_of_ne hb))), hfirst.bind ?_⟩
        rw [if_neg hb]
        exact hreports

/-- Without candidates nothing is tested. -/
theorem SearchEnds.of_nil (h : SearchEnds d test [] r events) : r = .ok (!d) ∧ events = [] := by
  cases h with
  | decided split _ _ =>
    exact absurd split.symm (List.append_ne_nil_of_right_ne_nil _ (List.cons_ne_nil _ _))
  | failed split _ _ =>
    exact absurd split.symm (List.append_ne_nil_of_right_ne_nil _ (List.cons_ne_nil _ _))
  | exhausted _ => exact ⟨rfl, rfl⟩

/-- Where no test fails, the search is told by the booleans alone. -/
theorem SearchEnds.result_eq (h : SearchEnds d test as r events) {φ : α → Bool}
    (hφ : ∀ a ∈ as, (test a).answer = .ok (φ a)) :
    r = .ok (if d = true then as.any φ else as.all φ) := by
  have hvalue : ∀ a ∈ as, ∀ b, (test a).answer = .ok b → φ a = b := by
    intro a ha b hb
    exact Except.ok.inj ((hφ a ha).symm.trans hb)
  cases h with
  | decided split _ here =>
    subst split
    have hfound := hvalue _ (List.mem_append_right _ List.mem_cons_self) d here
    cases d <;> simp [hfound]
  | failed split _ here =>
    subst split
    cases (hφ _ (List.mem_append_right _ List.mem_cons_self)).symm.trans here
  | exhausted passed =>
    have hnone := fun a ha => hvalue a ha _ (passed a ha)
    cases d with
    | true =>
      have hany : as.any φ = false :=
        List.any_eq_false.2 fun a ha => by rw [hnone a ha]; exact Bool.false_ne_true
      rw [if_pos rfl, hany]
      rfl
    | false =>
      have hall : as.all φ = true := List.all_eq_true.2 hnone
      rw [if_neg Bool.false_ne_true, hall]
      rfl

end Searches

/-! ## Collections -/

/-- A collection of what is had of elements in order, up to the first that fails. -/
inductive CollectEnds (call : α → Eval β) (as : List α) :
    Except Failure (List β) → List Event → Prop
  | collected {bs : List β} (each : List.Forall₂ (fun a b => (call a).answer = .ok b) as bs) :
      CollectEnds call as (.ok bs) (as.flatMap fun a => (call a).trace)
  | failed {before after : List α} {a : α} {e : Failure} (split : as = before ++ a :: after)
      (passed : ∀ b ∈ before, ∃ v, (call b).answer = .ok v) (here : (call a).answer = .error e) :
      CollectEnds call as (.error e) ((before ++ [a]).flatMap fun b => (call b).trace)

section Collections

variable {call : α → Eval β} {as : List α} {a : α} {r : Except Failure (List β)}
  {events : List Event}

/-- Without elements nothing is asked. -/
theorem CollectEnds.of_nil (h : CollectEnds call [] r events) : r = .ok [] ∧ events = [] := by
  cases h with
  | collected each =>
    cases each
    exact ⟨rfl, rfl⟩
  | failed split _ _ =>
    exact absurd split.symm (List.append_ne_nil_of_right_ne_nil _ (List.cons_ne_nil _ _))

/-- If each element has something, all of it is collected. -/
theorem CollectEnds.result_eq (h : CollectEnds call as r events) {bs : List β}
    (hbs : List.Forall₂ (fun a b => (call a).answer = .ok b) as bs) : r = .ok bs := by
  cases h with
  | collected each =>
    have hunique : Relator.RightUnique fun a b => (call a).answer = .ok b :=
      fun _ _ _ hb hb' => Except.ok.inj (hb.symm.trans hb')
    exact congrArg Except.ok (List.right_unique_forall₂' hunique each hbs)
  | @failed before after a e split _ here =>
    -- the element that fails has something as well
    subst split
    have hat : before.length < bs.length := by
      rw [← hbs.length_eq, List.length_append, List.length_cons]
      omega
    have hanswer := hbs.get (hbs.length_eq ▸ hat) hat
    simp only [List.get_eq_getElem, List.getElem_append_right, Nat.le_refl, Nat.sub_self,
      List.getElem_cons_zero] at hanswer
    cases here.symm.trans hanswer

theorem CollectEnds.cons {b : β} (ha : (call a).answer = .ok b) (h : CollectEnds call as r events) :
    CollectEnds call (a :: as) (r.map (b :: ·)) ((call a).trace ++ events) := by
  cases h with
  | collected each => exact .collected (.cons ha each)
  | failed split passed here =>
    exact .failed (congrArg (a :: ·) split) (List.forall_mem_cons.2 ⟨⟨b, ha⟩, passed⟩) here

theorem collectEnds_head_error {e : Failure} (ha : (call a).answer = .error e) :
    CollectEnds call (a :: as) (.error e) (call a).trace := by
  have hends : CollectEnds call (a :: as) (.error e) (([] ++ [a]).flatMap fun b => (call b).trace) :=
    .failed rfl (List.forall_mem_nil _) ha
  rwa [List.nil_append, List.flatMap_singleton] at hends

/-- Collecting from steady calls ends so. -/
theorem reports_each (hcall : ∀ a, (call a).Steady) (as : List α) :
    ∃ r events, CollectEnds call as r events ∧ (each call as).Reports r events := by
  induction as with
  | nil => exact ⟨_, _, .collected .nil, reports_ok _⟩
  | cons a rest ih =>
    have hfirst := (hcall a).reports
    rw [each]
    cases ha : (call a).answer with
    | error e =>
      rw [ha] at hfirst
      exact ⟨_, _, collectEnds_head_error ha, hfirst.bind_error⟩
    | ok b =>
      rw [ha] at hfirst
      obtain ⟨r, events, hends, hreports⟩ := ih
      exact ⟨_, _, hends.cons ha, hfirst.bind (hreports.map (b :: ·))⟩

end Collections

end Xacml
