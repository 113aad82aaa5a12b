/-
Searches as what they find, whatever the order. A search for a boolean ends when it is found, and
with the other boolean when there is nothing left; a failure on the way ends it too. So two searches
of the same candidates, in whatever orders, never end in different booleans, and if one fails where
the other does not, then some candidate fails and the others settle the answer without it.
-/
import Mathlib.Data.Bool.Basic
import Xacml.Proofs.Evaluation.Report

namespace Xacml

open Eval

variable {α β : Type}

/-! ## Findings -/

/-- What a result says: the boolean `d` that something was `found`, the other one that the search
was `exhausted`, and a failure that something `failed`. -/
structure Finding (d : Bool) (found exhausted failed : Prop) (r : Except Failure Bool) : Prop where
  found : r = .ok d → found
  exhausted : r = .ok (!d) → exhausted
  failed : ∀ e, r = .error e → failed

/-- Two results are the same boolean or both failures, except that one may be a failure where the
other is a boolean that is excepted. -/
inductive Agree (excepted : Bool → Prop) : Except Failure Bool → Except Failure Bool → Prop
  | same (b : Bool) : Agree excepted (.ok b) (.ok b)
  | failed (e e' : Failure) : Agree excepted (.error e) (.error e')
  | left (e : Failure) (b : Bool) : excepted b → Agree excepted (.error e) (.ok b)
  | right (b : Bool) (e : Failure) : excepted b → Agree excepted (.ok b) (.error e)

theorem Agree.imp {excepted excepted' : Bool → Prop} {r r' : Except Failure Bool}
    (h : Agree excepted r r') (himp : ∀ b, excepted b → excepted' b) : Agree excepted' r r' := by
  cases h with
  | same b => exact .same b
  | failed e e' => exact .failed e e'
  | left e b hb => exact .left e b (himp b hb)
  | right b e hb => exact .right b e (himp b hb)

section Finding

variable {d : Bool} {found exhausted failed found' exhausted' failed' : Prop}
  {r r' : Except Failure Bool}

theorem Finding.imp (h : Finding d found exhausted failed r) (hf : found → found')
    (he : exhausted → exhausted') (hx : failed → failed') :
    Finding d found' exhausted' failed' r :=
  ⟨fun hr => hf (h.found hr), fun hr => he (h.exhausted hr), fun e hr => hx (h.failed e hr)⟩

theorem finding_found (h : found) : Finding d found exhausted failed (.ok d) :=
  ⟨fun _ => h, fun hr => ((Bool.eq_not_self d).1 (Except.ok.inj hr)).elim, fun _ hr => nomatch hr⟩

theorem finding_exhausted (h : exhausted) : Finding d found exhausted failed (.ok (!d)) :=
  ⟨fun hr => ((Bool.eq_not_self d).1 (Except.ok.inj hr).symm).elim, fun _ => h,
    fun _ hr => nomatch hr⟩

theorem finding_failed {e : Failure} (h : failed) : Finding d found exhausted failed (.error e) :=
  ⟨nofun, nofun, fun _ _ => h⟩

/-- Of a boolean result it is known which of the two it stands for. -/
theorem Finding.of_ok (h : Finding d found exhausted failed r) {b : Bool} (hr : r = .ok b) :
    b = d ∧ found ∨ b = (!d) ∧ exhausted := by
  rcases Bool.eq_or_eq_not b d with rfl | rfl
  · exact .inl ⟨rfl, h.found hr⟩
  · exact .inr ⟨rfl, h.exhausted hr⟩

/-- Results that say the same agree, except where something failed. -/
theorem Finding.agree (h : Finding d found exhausted failed r)
    (h' : Finding d found exhausted failed r') (hone : found → ¬ exhausted) :
    Agree (fun b => failed ∧ (b = d ∧ found ∨ b = (!d) ∧ exhausted)) r r' := by
  rcases hr : r with e | b <;> rcases hr' : r' with e' | b'
  · exact .failed e e'
  · exact .left e b' ⟨h.failed e hr, h'.of_ok hr'⟩
  · exact .right b e' ⟨h'.failed e' hr', h.of_ok hr⟩
  · obtain rfl : b = b' := by
      rcases h.of_ok hr with ⟨rfl, hf⟩ | ⟨rfl, he⟩ <;>
        rcases h'.of_ok hr' with ⟨rfl, hf'⟩ | ⟨rfl, he'⟩
      · rfl
      · exact absurd he' (hone hf)
      · exact absurd he (hone hf')
      · rfl
    exact .same b

end Finding

/-! ## Searches -/

/-- A result is that of a search for `d` among the candidates `C`, each of which is asked `on`. -/
def Searches (d : Bool) (C : α → Prop) (on : α → Except Failure Value) (r : Except Failure Bool) :
    Prop :=
  Finding d (∃ v, C v ∧ on v = .ok (.ofBool d)) (∀ v, C v → on v = .ok (.ofBool (!d)))
    (∃ v, C v ∧ ∃ e, on v = .error e) r

/-- A result is that of a search for a row that is all `d`; in each row `!d` is searched for. -/
def SearchesRows (d : Bool) (A : α → Prop) (B : β → Prop) (on : α → β → Except Failure Value)
    (r : Except Failure Bool) : Prop :=
  Finding d (∃ v, A v ∧ ∀ w, B w → on v w = .ok (.ofBool d))
    (∀ v, A v → ∃ w, B w ∧ on v w = .ok (.ofBool (!d)))
    (∃ v, A v ∧ ∃ w, B w ∧ ∃ e, on v w = .error e) r

section Searches

variable {d : Bool} {r r' : Except Failure Bool} {C : α → Prop} {on : α → Except Failure Value}

theorem ofBool_ne_not (d : Bool) :
    (Except.ok (Value.ofBool d) : Except Failure Value) ≠ .ok (.ofBool (!d)) := by
  cases d <;> nofun

/-- Searches of the same candidates agree, except that where a candidate fails, another may have
been found. -/
theorem Searches.agree (h : Searches d C on r) (h' : Searches d C on r') :
    Agree (fun b => (∃ v, C v ∧ ∃ e, on v = .error e) ∧
      b = d ∧ ∃ v, C v ∧ on v = .ok (.ofBool d)) r r' := by
  have hone : (∃ v, C v ∧ on v = .ok (.ofBool d)) → ¬ ∀ v, C v → on v = .ok (.ofBool (!d)) := by
    rintro ⟨v, hv, hon⟩ hnone
    exact ofBool_ne_not d (hon.symm.trans (hnone v hv))
  refine (Finding.agree h h' hone).imp ?_
  rintro b ⟨⟨v, hv, e, he⟩, hfound | ⟨-, hnone⟩⟩
  · exact ⟨⟨v, hv, e, he⟩, hfound⟩
  · cases he.symm.trans (hnone v hv)

/-- Searches of the same rows agree, except that where a candidate fails, the others may have
settled the answer. -/
theorem SearchesRows.agree {A : α → Prop} {B : β → Prop} {on : α → β → Except Failure Value}
    (h : SearchesRows d A B on r) (h' : SearchesRows d A B on r') :
    Agree (fun b => (∃ v, A v ∧ ∃ w, B w ∧ ∃ e, on v w = .error e) ∧
      (b = d ∧ (∃ v, A v ∧ ∀ w, B w → on v w = .ok (.ofBool d)) ∨
        b = (!d) ∧ ∀ v, A v → ∃ w, B w ∧ on v w = .ok (.ofBool (!d)))) r r' := by
  refine Finding.agree h h' ?_
  rintro ⟨v, hv, hall⟩ hnone
  obtain ⟨w, hw, hon⟩ := hnone v hv
  exact ofBool_ne_not d ((hall w hw).symm.trans hon)

/-- Candidates under other names. -/
theorem Searches.image {C' : β → Prop} {on : β → Except Failure Value} (f : α → β)
    (h : Searches d C (fun a => on (f a)) r) (hC : ∀ b, C' b ↔ ∃ a, C a ∧ f a = b) :
    Searches d C' on r := by
  refine Finding.imp h ?_ ?_ ?_
  · rintro ⟨v, hv, hon⟩
    exact ⟨f v, (hC _).2 ⟨v, hv, rfl⟩, hon⟩
  · rintro hnone w hw
    obtain ⟨v, hv, rfl⟩ := (hC w).1 hw
    exact hnone v hv
  · rintro ⟨v, hv, he⟩
    exact ⟨f v, (hC _).2 ⟨v, hv, rfl⟩, he⟩

theorem map_ofBool_eq_ok {r : Except Failure Bool} {b : Bool} :
    r.map Value.ofBool = .ok (.ofBool b) ↔ r = .ok b := by
  rcases r with e | b'
  · exact ⟨nofun, nofun⟩
  · cases b <;> cases b' <;> simp [Except.map, Value.ofBool]

theorem map_ofBool_eq_error {r : Except Failure Bool} {e : Failure} :
    r.map Value.ofBool = .error e ↔ r = .error e := by
  cases r <;> simp [Except.map]

/-- A search of searches for the same boolean is one of all their candidates. -/
theorem Searches.join {rows : α → Except Failure Bool} {D : α → β → Prop}
    {on : α → β → Except Failure Value} (h : Searches d C (fun a => (rows a).map .ofBool) r)
    (hrows : ∀ a, C a → Searches d (D a) (on a) (rows a)) :
    Searches d (fun p : α × β => C p.1 ∧ D p.1 p.2) (fun p => on p.1 p.2) r := by
  refine Finding.imp h ?_ ?_ ?_
  · rintro ⟨v, hv, hon⟩
    obtain ⟨w, hw, hon⟩ := (hrows v hv).found (map_ofBool_eq_ok.1 hon)
    exact ⟨(v, w), ⟨hv, hw⟩, hon⟩
  · rintro hnone ⟨v, w⟩ ⟨hv, hw⟩
    exact (hrows v hv).exhausted (map_ofBool_eq_ok.1 (hnone v hv)) w hw
  · rintro ⟨v, hv, e, he⟩
    obtain ⟨w, hw, he⟩ := (hrows v hv).failed e (map_ofBool_eq_error.1 he)
    exact ⟨(v, w), ⟨hv, hw⟩, he⟩

/-- A search of searches for the other boolean is one of rows. -/
theorem Searches.rows {rows : α → Except Failure Bool} {B : β → Prop}
    {on : α → β → Except Failure Value} (h : Searches d C (fun a => (rows a).map .ofBool) r)
    (hrows : ∀ a, C a → Searches (!d) B (on a) (rows a)) : SearchesRows d C B on r := by
  refine Finding.imp h ?_ ?_ ?_
  · rintro ⟨v, hv, hon⟩
    have hall := (hrows v hv).exhausted (by rw [Bool.not_not]; exact map_ofBool_eq_ok.1 hon)
    exact ⟨v, hv, fun w hw => by rw [hall w hw, Bool.not_not]⟩
  · rintro hnone v hv
    exact (hrows v hv).found (map_ofBool_eq_ok.1 (hnone v hv))
  · rintro ⟨v, hv, e, he⟩
    exact ⟨v, hv, (hrows v hv).failed e (map_ofBool_eq_error.1 he)⟩

end Searches

/-! ## Searches through lists -/

section Lists

variable {d : Bool} {r : Except Failure Bool} {on : α → Except Failure Value} {as : List α}
  {p : α → Eval Bool}

/-- Where a search through a list ends tells what it has found. -/
theorem SearchEnds.searches {events : List Event} (h : SearchEnds d p as r events)
    (hon : ∀ a ∈ as, (p a).answer.map .ofBool = on a) : Searches d (· ∈ as) on r := by
  cases h with
  | @decided before after a split _ here =>
    have ha : a ∈ as := split ▸ List.mem_append_right before List.mem_cons_self
    refine finding_found ⟨a, ha, ?_⟩
    rw [← hon a ha, here]
    rfl
  | @failed before after a e split _ here =>
    have ha : a ∈ as := split ▸ List.mem_append_right before List.mem_cons_self
    refine finding_failed ⟨a, ha, e, ?_⟩
    rw [← hon a ha, here]
    rfl
  | exhausted passed =>
    refine finding_exhausted fun a ha => ?_
    rw [← hon a ha, passed a ha]
    rfl

end Lists

end Xacml
