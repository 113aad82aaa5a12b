/-
Searches and collections through lists. To ask whether some element passes is to search for a true
answer, and to ask whether all of them pass is to search for a false one; so what is proved of the
search for a boolean, whichever it is, is proved of both.
-/
import Xacml.Evaluation.Combinator

namespace Xacml

open Eval

variable {α β γ : Type}

/-! ## Searches -/

/-- A search for the boolean `d`. -/
def Eval.seek (d : Bool) (p : α → Eval Bool) : List α → Eval Bool
  | [] => ok !d
  | a :: rest => do
    let b ← p a
    if b = d then ok d else seek d p rest

theorem any_eq_seek (p : α → Eval Bool) (as : List α) : any p as = seek true p as := by
  induction as with
  | nil => rfl
  | cons a rest ih => rw [any, seek, ih]

theorem all_eq_seek (p : α → Eval Bool) (as : List α) : all p as = seek false p as := by
  induction as with
  | nil => rfl
  | cons a rest ih =>
    rw [all, seek, ih]
    congr 1
    funext b
    cases b <;> rfl

theorem seek_congr {d : Bool} {p q : α → Eval Bool} {as : List α} (h : ∀ a ∈ as, p a = q a) :
    seek d p as = seek d q as := by
  induction as with
  | nil => rfl
  | cons a rest ih =>
    rw [List.forall_mem_cons] at h
    rw [seek, seek, h.1, ih h.2]

theorem seek_map {d : Bool} (p : β → Eval Bool) (f : α → β) (as : List α) :
    seek d p (as.map f) = seek d (fun a => p (f a)) as := by
  induction as with
  | nil => rfl
  | cons a rest ih => rw [List.map_cons, seek, seek, ih]

/-! ## Collections -/

theorem each_congr {f g : α → Eval β} {as : List α} (h : ∀ a ∈ as, f a = g a) :
    each f as = each g as := by
  induction as with
  | nil => rfl
  | cons a rest ih =>
    rw [List.forall_mem_cons] at h
    rw [each, each, h.1, ih h.2]

theorem each_map (f : β → Eval γ) (g : α → β) (as : List α) :
    each f (as.map g) = each (fun a => f (g a)) as := by
  induction as with
  | nil => rfl
  | cons a rest ih => rw [List.map_cons, each, each, ih]

end Xacml
