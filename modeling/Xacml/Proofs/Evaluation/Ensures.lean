/-
What every run of an evaluation ensures, whatever the store of compiled patterns holds when it
starts: each of its events satisfies `E`, an answer satisfies `P` and a failure satisfies `F`. The
rules follow the way evaluations are put together, so that a law about a call is read off its
definition step by step.
-/
import Mathlib.Data.List.Forall2
import Xacml.Proofs.Evaluation.Seek

namespace Xacml

variable {α β : Type}

/-! ## Results -/

/-- A result is an answer that satisfies `P` or a failure that satisfies `F`. -/
def Settles (P : α → Prop) (F : Failure → Prop) : Except Failure α → Prop
  | .ok a => P a
  | .error e => F e

section Settles

variable {P P' : α → Prop} {Q : β → Prop} {F F' : Failure → Prop}

theorem settles_iff {r : Except Failure α} :
    Settles P F r ↔ (∀ a, r = .ok a → P a) ∧ ∀ e, r = .error e → F e := by
  cases r <;> simp [Settles]

/-- An answer is handed on. Stated with a proof in parentheses, so that rewriting with it leaves an
equation and the kernel need not compute `f a`. -/
theorem ok_bind (a : α) (f : α → Except Failure β) : (Except.ok a >>= f) = f a := (rfl)

theorem Settles.imp {r : Except Failure α} (h : Settles P F r) (hP : ∀ a, P a → P' a)
    (hF : ∀ e, F e → F' e) : Settles P' F' r := by
  cases r with
  | error e => exact hF e h
  | ok a => exact hP a h

theorem Settles.bind {r : Except Failure α} {f : α → Except Failure β} (h : Settles P F r)
    (hf : ∀ a, P a → Settles Q F (f a)) : Settles Q F (r >>= f) := by
  cases r with
  | error e => exact h
  | ok a => exact hf a h

theorem Settles.map {r : Except Failure α} {f : α → β} (h : Settles P F r)
    (hf : ∀ a, P a → Q (f a)) : Settles Q F (r.map f) := by
  cases r with
  | error e => exact h
  | ok a => exact hf a h

theorem Settles.mapError {r : Except Failure α} {g : Failure → Failure} (h : Settles P F r)
    (hg : ∀ e, F e → F' (g e)) : Settles P F' (r.mapError g) := by
  cases r with
  | error e => exact hg e h
  | ok a => exact h

/-- Of a failure it may also be said whose it is. -/
theorem Settles.withError {r : Except Failure α} (h : Settles P F r) :
    Settles P (fun e => F e ∧ r = .error e) r := by
  cases r with
  | error e => exact ⟨h, rfl⟩
  | ok a => exact h

/-- What holds of every result holds of the list of all answers, or of the first failure. -/
theorem Settles.mapM {f : α → Except Failure β} (h : ∀ a, Settles Q F (f a)) :
    ∀ as : List α, Settles (fun bs => ∀ b ∈ bs, Q b) F (as.mapM f)
  | [] => List.forall_mem_nil _
  | a :: rest => by
    rw [List.mapM_cons]
    refine (h a).bind fun b hb => (Settles.mapM h rest).bind fun bs hbs => ?_
    exact List.forall_mem_cons.2 ⟨hb, hbs⟩

theorem settles_ite {p : Prop} [Decidable p] {r s : Except Failure α} (hr : p → Settles P F r)
    (hs : ¬ p → Settles P F s) : Settles P F (if p then r else s) := by
  split
  · exact hr ‹_›
  · exact hs ‹_›

end Settles

/-! ## Evaluations -/

namespace Eval

/-- In every run, what happens satisfies `E`, and the run ends in an answer that satisfies `P` or in
a failure that satisfies `F`. -/
def Ensures (x : Eval α) (E : Event → Prop) (P : α → Prop) (F : Failure → Prop) : Prop :=
  ∀ c, Settles P F (x c).result ∧ ∀ e ∈ (x c).events, E e

section Rules

variable {x : Eval α} {E : Event → Prop} {P P' : α → Prop} {Q : β → Prop} {F F' : Failure → Prop}

theorem Ensures.imp (h : x.Ensures E P F) (hP : ∀ a, P a → P' a) (hF : ∀ e, F e → F' e) :
    x.Ensures E P' F' := fun c => ⟨(h c).1.imp hP hF, (h c).2⟩

theorem Ensures.weaken (h : x.Ensures E P F) (hF : ∀ e, F e → F' e) : x.Ensures E P F' :=
  h.imp (fun _ hp => hp) hF

/-- Of a failure it may also be said that the evaluation ends in it. -/
theorem Ensures.withFailure (h : x.Ensures E P F) :
    x.Ensures E P (fun e => F e ∧ ∃ c, (x c).result = .error e) :=
  fun c => ⟨(h c).1.withError.imp (fun _ hp => hp) fun _ ⟨hF, he⟩ => ⟨hF, c, he⟩, (h c).2⟩

/-- Every run ensures what is always so. -/
theorem ensures_trivial (x : Eval α) : x.Ensures (fun _ => True) (fun _ => True) (fun _ => True) :=
  fun _ => ⟨settles_iff.2 ⟨fun _ _ => trivial, fun _ _ => trivial⟩, fun _ _ => trivial⟩

theorem ensures_done {r : Except Failure α} (h : Settles P F r) : (done r).Ensures E P F :=
  fun _ => ⟨h, List.forall_mem_nil _⟩

theorem ensures_ok {a : α} (h : P a) : (ok a).Ensures E P F := ensures_done h

theorem ensures_pure {a : α} (h : P a) : (pure a : Eval α).Ensures E P F := ensures_done h

theorem ensures_fail {e : Failure} (h : F e) : (fail e : Eval α).Ensures E P F := ensures_done h

theorem ensures_note {e : Event} (h : E e) : (note e).Ensures E (fun _ => True) F :=
  fun _ => ⟨trivial, List.forall_mem_singleton.2 h⟩

theorem bind_apply (x : Eval α) (f : α → Eval β) (c : Pattern.Cache) :
    (x >>= f) c = andThen x f c := rfl

theorem Ensures.bind {f : α → Eval β} (hx : x.Ensures E P F)
    (hf : ∀ a, P a → (f a).Ensures E Q F) : (x >>= f).Ensures E Q F := by
  intro c
  obtain ⟨h, hevents⟩ := hx c
  rw [bind_apply, andThen]
  cases hr : (x c).result with
  | error e => rw [hr] at h; exact ⟨h, hevents⟩
  | ok a =>
    rw [hr] at h
    obtain ⟨h', hevents'⟩ := hf a h (x c).cache
    exact ⟨h', List.forall_mem_append.2 ⟨hevents, hevents'⟩⟩

/-- A first step that only notes something can be passed over. -/
theorem Ensures.afterNote {e : Event} (h : x.Ensures E P F) (he : E e) :
    (note e >>= fun _ => x).Ensures E P F :=
  (ensures_note he).bind fun _ _ => h

theorem Ensures.mapFailure {g : Failure → Failure} (h : x.Ensures E P F)
    (hg : ∀ e, F e → F' (g e)) : (x.mapFailure g).Ensures E P F' :=
  fun c => ⟨(h c).1.mapError hg, (h c).2⟩

theorem Ensures.attempt (h : x.Ensures E P F) : x.attempt.Ensures E (Settles P F) F' := h

/-- A pattern that is asked for is there, or its text denotes none. -/
theorem ensures_pattern (text : String) :
    (pattern text).Ensures E (fun _ => True)
      (fun e => e = .of (.pattern text) ∧ Pattern.compile? text = none) := by
  intro c
  unfold pattern Pattern.Cache.request
  cases c.entries.lookup text with
  | some p => exact ⟨trivial, List.forall_mem_nil _⟩
  | none =>
    cases Pattern.compile? text with
    | some p => exact ⟨trivial, List.forall_mem_nil _⟩
    | none => exact ⟨⟨rfl, rfl⟩, List.forall_mem_nil _⟩

/-! ## Searches -/

theorem ensures_seek {d : Bool} {p : α → Eval Bool} {as : List α}
    (h : ∀ a ∈ as, (p a).Ensures E (fun _ => True) F) : (seek d p as).Ensures E (fun _ => True) F := by
  induction as with
  | nil => exact ensures_ok trivial
  | cons a rest ih =>
    refine (h a List.mem_cons_self).bind fun b _ => ?_
    split
    · exact ensures_ok trivial
    · exact ih fun a' ha => h a' (List.mem_cons_of_mem _ ha)

theorem ensures_each {f : α → Eval β} {as : List α} (h : ∀ a ∈ as, (f a).Ensures E Q F) :
    (each f as).Ensures E (fun bs => ∀ b ∈ bs, Q b) F := by
  induction as with
  | nil => exact ensures_ok (by simp)
  | cons a rest ih =>
    refine (h a List.mem_cons_self).bind fun b hb => ?_
    refine (ih fun a' ha => h a' (List.mem_cons_of_mem _ ha)).bind fun bs hbs => ?_
    exact ensures_pure (List.forall_mem_cons.2 ⟨hb, hbs⟩)

end Rules

end Eval

end Xacml
