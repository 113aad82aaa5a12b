/-
Two runs side by side. A likeness says which stores of compiled patterns the runs may start from and
how the events of one may differ from those of the other. Evaluations match if two such runs end in
answers that `A` relates or in failures that `F` relates, leave such stores again, and note such
events; they are alike if both relations are equality. The rules follow the way evaluations are put
together, and a search may also look at what is known of its candidates, since only those in the list
are tested. What holds of evaluations that match is read off for those that are alike.
-/
import Xacml.Proofs.Evaluation.Ensures

namespace Xacml

open Eval

variable {α β γ δ : Type}

/-- The leaf that was evaluated, if the event is that of a leaf. -/
def Event.leaf? : Event → Option Leaf
  | .leaf l => some l
  | .kernel _ _ | .subCall _ _ => none

/-- How two runs of one evaluation may differ. -/
structure Likeness where
  caches : Pattern.Cache → Pattern.Cache → Prop
  logs : List Event → List Event → Prop
  request : ∀ {c c'} (text : String), caches c c' → (c.request text).1 = (c'.request text).1 ∧
    caches (c.request text).2 (c'.request text).2
  nil : logs [] []
  append : ∀ {l l' m m'}, logs l l' → logs m m' → logs (l ++ m) (l' ++ m')
  own : ∀ {e : Event}, e.leaf? = none → logs [e] [e]

/-! ## Results -/

/-- Two answers that `A` relates, or two failures that `F` relates. -/
inductive Matched (A : α → β → Prop) (F : Failure → Failure → Prop) :
    Except Failure α → Except Failure β → Prop
  | answered {a : α} {b : β} : A a b → Matched A F (.ok a) (.ok b)
  | failed {e e' : Failure} : F e e' → Matched A F (.error e) (.error e')

section Matched

variable {A A' : α → β → Prop} {F F' : Failure → Failure → Prop} {r : Except Failure α}
  {r' : Except Failure β}

theorem Matched.imp (h : Matched A F r r') (hA : ∀ a b, A a b → A' a b)
    (hF : ∀ e e', F e e' → F' e e') : Matched A' F' r r' := by
  cases h with
  | answered h => exact .answered (hA _ _ h)
  | failed h => exact .failed (hF _ _ h)

theorem matched_eq_iff {r r' : Except Failure α} : Matched Eq Eq r r' ↔ r = r' := by
  constructor
  · rintro (rfl | rfl) <;> rfl
  · rintro rfl
    cases r with
    | error e => exact .failed rfl
    | ok a => exact .answered rfl

theorem Matched.mapError {G : Failure → Failure → Prop} {f g : Failure → Failure}
    (h : Matched A F r r') (hg : ∀ e e', F e e' → G (f e) (g e')) :
    Matched A G (r.mapError f) (r'.mapError g) := by
  cases h with
  | answered h => exact .answered h
  | failed h => exact .failed (hg _ _ h)

/-- Of an answer to itself it may also be said what it is. -/
theorem Matched.of_settles {P : α → Prop} {r : Except Failure α}
    (h : Settles P (fun _ => True) r) : Matched (fun a b => a = b ∧ P a) Eq r r := by
  cases r with
  | error e => exact .failed rfl
  | ok a => exact .answered ⟨rfl, h⟩

end Matched

/-! ## Evaluations -/

namespace Likeness

variable {L : Likeness}

/-- Runs of the two evaluations end in results that match, and do not differ more than they may. -/
def Match (L : Likeness) (A : α → β → Prop) (F : Failure → Failure → Prop) (x : Eval α)
    (y : Eval β) : Prop :=
  ∀ c c', L.caches c c' → Matched A F (x c).result (y c').result ∧
    L.caches (x c).cache (y c').cache ∧ L.logs (x c).events (y c').events

/-- Runs of the two evaluations, from stores that may differ, do not differ more than they may. -/
def Alike (L : Likeness) (x y : Eval α) : Prop :=
  ∀ c c', L.caches c c' → (x c).result = (y c').result ∧ L.caches (x c).cache (y c').cache ∧
    L.logs (x c).events (y c').events

section Rules

variable {A A' : α → β → Prop} {B : γ → δ → Prop} {F F' G : Failure → Failure → Prop} {x : Eval α}
  {y : Eval β}

theorem match_eq_iff {x y : Eval α} : L.Match Eq Eq x y ↔ L.Alike x y :=
  forall₃_congr fun _ _ _ => and_congr_left' matched_eq_iff

theorem Alike.match {x y : Eval α} (h : L.Alike x y) : L.Match Eq Eq x y := match_eq_iff.2 h

theorem Match.imp (h : L.Match A F x y) (hA : ∀ a b, A a b → A' a b)
    (hF : ∀ e e', F e e' → F' e e') : L.Match A' F' x y :=
  fun c c' hc => ⟨(h c c' hc).1.imp hA hF, (h c c' hc).2⟩

/-- Failures that are equal are related if `F` relates every failure to itself. -/
theorem Match.weaken (h : L.Match A Eq x y) (hF : ∀ e, F e e) : L.Match A F x y :=
  h.imp (fun _ _ ha => ha) fun e _ he => he ▸ hF e

theorem match_ok (L : Likeness) {a : α} {b : β} (h : A a b) :
    L.Match A F (Eval.ok a) (Eval.ok b) := fun _ _ hc => ⟨.answered h, hc, L.nil⟩

theorem match_pure (L : Likeness) {a : α} {b : β} (h : A a b) :
    L.Match A F (pure a : Eval α) (pure b) := L.match_ok h

theorem Match.bind {f : α → Eval γ} {g : β → Eval δ} (h : L.Match A F x y)
    (hf : ∀ a b, A a b → L.Match B F (f a) (g b)) : L.Match B F (x >>= f) (y >>= g) := by
  intro c c' hc
  obtain ⟨hresult, hcache, hlog⟩ := h c c' hc
  rw [bind_apply, bind_apply, andThen, andThen]
  generalize (x c).result = r, (y c').result = r' at hresult
  cases hresult with
  | failed he => exact ⟨.failed he, hcache, hlog⟩
  | answered hab =>
    obtain ⟨hresult', hcache', hlog'⟩ := hf _ _ hab _ _ hcache
    exact ⟨hresult', hcache', L.append hlog hlog'⟩

theorem Match.mapFailure {f g : Failure → Failure} (h : L.Match A F x y)
    (hg : ∀ e e', F e e' → G (f e) (g e')) : L.Match A G (x.mapFailure f) (y.mapFailure g) :=
  fun c c' hc => ⟨(h c c' hc).1.mapError hg, (h c c' hc).2⟩

/-- The second evaluation may go on to make something of its answer. -/
theorem Match.mapRight {B : α → γ → Prop} {f : β → γ} (h : L.Match A F x y)
    (hf : ∀ a b, A a b → B a (f b)) : L.Match B F x (y >>= fun b => pure (f b)) := by
  intro c c' hc
  obtain ⟨hresult, hcache, hlog⟩ := h c c' hc
  rw [bind_apply, andThen]
  generalize (x c).result = r, (y c').result = r' at hresult
  cases hresult with
  | failed he => exact ⟨.failed he, hcache, hlog⟩
  | answered hab =>
    refine ⟨.answered (hf _ _ hab), hcache, ?_⟩
    rwa [← List.append_nil (y c').events] at hlog

/-- What matches something answers with what is related to something. -/
theorem Match.self (h : L.Match A F x y) (hx : L.Alike x x) :
    L.Match (fun a a' => a = a' ∧ ∃ b, A a b) Eq x x := by
  intro c c' hc
  obtain ⟨hsame, hrest⟩ := hx c c' hc
  have hresult := (h c c' hc).1
  refine ⟨?_, hrest⟩
  rw [← hsame]
  generalize (x c).result = r, (y c').result = r' at hresult
  cases hresult with
  | failed _ => exact .failed rfl
  | answered hab => exact .answered ⟨rfl, _, hab⟩

/-- Of an answer it may also be said what every run ensures. -/
theorem Alike.ensuring {P : α → Prop} {E : Event → Prop} {F : Failure → Prop} {x : Eval α}
    (h : L.Alike x x) (hx : x.Ensures E P F) : L.Match (fun a b => a = b ∧ P a) Eq x x := by
  intro c c' hc
  obtain ⟨hsame, hrest⟩ := h c c' hc
  refine ⟨?_, hrest⟩
  rw [← hsame]
  exact .of_settles ((hx c).1.imp (fun _ ha => ha) fun _ _ => trivial)

end Rules

/-! ## Searches -/

section Searches

variable {F : Failure → Failure → Prop} {as : List α}

theorem match_seek {d : Bool} {p q : α → Eval Bool} (h : ∀ a ∈ as, L.Match Eq F (p a) (q a)) :
    L.Match Eq F (seek d p as) (seek d q as) := by
  induction as with
  | nil => exact L.match_ok rfl
  | cons a rest ih =>
    rw [List.forall_mem_cons] at h
    refine h.1.bind fun b _ hb => ?_
    subst hb
    split
    · exact L.match_ok rfl
    · exact ih h.2

theorem match_each {f g : α → Eval β} (h : ∀ a ∈ as, L.Match Eq F (f a) (g a)) :
    L.Match Eq F (each f as) (each g as) := by
  induction as with
  | nil => exact L.match_ok rfl
  | cons a rest ih =>
    rw [List.forall_mem_cons] at h
    refine h.1.bind fun b _ hb => (ih h.2).bind fun bs _ hbs => ?_
    exact L.match_pure (congrArg₂ List.cons hb hbs)

end Searches

/-! ## Evaluations that are alike -/

section Alike

variable {x y : Eval α}

theorem alike_done (L : Likeness) (r : Except Failure α) : L.Alike (done r) (done r) :=
  fun _ _ h => ⟨rfl, h, L.nil⟩

theorem alike_ok (L : Likeness) (a : α) : L.Alike (Eval.ok a) (Eval.ok a) := L.alike_done _

theorem alike_pure (L : Likeness) (a : α) : L.Alike (pure a : Eval α) (pure a) := L.alike_done _

theorem alike_fail (L : Likeness) (e : Failure) : L.Alike (fail e : Eval α) (fail e) :=
  L.alike_done _

theorem alike_note (L : Likeness) {e : Event} (h : e.leaf? = none) : L.Alike (note e) (note e) :=
  fun _ _ hc => ⟨rfl, hc, L.own h⟩

theorem alike_pattern (L : Likeness) (text : String) :
    L.Alike (Eval.pattern text) (Eval.pattern text) := by
  intro c c' hc
  obtain ⟨hfound, hleft⟩ := L.request text hc
  rcases hr : c.request text with ⟨p, d⟩
  rcases hr' : c'.request text with ⟨p', d'⟩
  rw [hr, hr'] at hfound hleft
  cases (hfound : p = p')
  unfold Eval.pattern
  rw [hr, hr']
  cases p with
  | none => exact ⟨rfl, hleft, L.nil⟩
  | some p => exact ⟨rfl, hleft, L.nil⟩

theorem Alike.bind {f g : α → Eval β} (h : L.Alike x y) (hf : ∀ a, L.Alike (f a) (g a)) :
    L.Alike (x >>= f) (y >>= g) :=
  match_eq_iff.1 (h.match.bind fun a _ hab => hab ▸ (hf a).match)

theorem Alike.mapFailure (h : L.Alike x y) (g : Failure → Failure) :
    L.Alike (x.mapFailure g) (y.mapFailure g) :=
  match_eq_iff.1 (h.match.mapFailure fun _ _ => congrArg g)

theorem Alike.attempt (h : L.Alike x y) : L.Alike x.attempt y.attempt := by
  intro c c' hc
  obtain ⟨hresult, hcache, hlog⟩ := h c c' hc
  exact ⟨congrArg Except.ok hresult, hcache, hlog⟩

theorem alike_ite {p : Prop} [Decidable p] {x' y' : Eval α} (h : L.Alike x y)
    (h' : L.Alike x' y') : L.Alike (if p then x else x') (if p then y else y') := by
  split
  · exact h
  · exact h'

theorem alike_seek {d : Bool} {p q : α → Eval Bool} (h : ∀ a, L.Alike (p a) (q a)) (as : List α) :
    L.Alike (seek d p as) (seek d q as) :=
  match_eq_iff.1 (match_seek fun a _ => (h a).match)

theorem alike_each {f g : α → Eval β} (h : ∀ a, L.Alike (f a) (g a)) (as : List α) :
    L.Alike (each f as) (each g as) :=
  match_eq_iff.1 (match_each fun a _ => (h a).match)

end Alike

section Values

variable {x y : Eval Value}

theorem Alike.single (h : L.Alike x y) : L.Alike x.single y.single :=
  h.bind fun v => by cases v <;> exact L.alike_done _

theorem Alike.bag (h : L.Alike x y) : L.Alike x.bag y.bag :=
  h.bind fun v => by cases v <;> exact L.alike_done _

theorem Alike.ofBool {x y : Eval Bool} (h : L.Alike x y) :
    L.Alike (x >>= fun b => pure (Value.ofBool b)) (y >>= fun b => pure (Value.ofBool b)) :=
  h.bind fun _ => L.alike_pure _

end Values

end Likeness

end Xacml
