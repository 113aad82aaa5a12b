/-
Three-valued thresholds. Some booleans may have failed; at least `k` of them are true whatever the
failed ones might have been, or less than `k`, or it cannot be said. A prefix of the booleans forces
an answer if the answer is the same whatever follows.
-/
import Xacml.Failure

namespace Xacml

/-- The answer of something that should be a boolean. -/
abbrev Truth := Except Failure Bool

namespace Tally

/-! ## Counting -/

/-- How many are true. -/
def trues (as : List Truth) : Nat :=
  as.countP fun
    | .ok b => b
    | .error _ => false

/-- How many have failed. -/
def failed (as : List Truth) : Nat :=
  as.countP fun
    | .ok _ => false
    | .error _ => true

section Counting

variable (as bs : List Truth) (e : Failure)

@[simp] theorem trues_nil : trues [] = 0 := rfl

@[simp] theorem failed_nil : failed [] = 0 := rfl

@[simp] theorem trues_true : trues (.ok true :: as) = trues as + 1 := List.countP_cons_of_pos rfl

@[simp] theorem trues_false : trues (.ok false :: as) = trues as :=
  List.countP_cons_of_neg Bool.false_ne_true

@[simp] theorem trues_error : trues (.error e :: as) = trues as :=
  List.countP_cons_of_neg Bool.false_ne_true

@[simp] theorem failed_ok (b : Bool) : failed (.ok b :: as) = failed as :=
  List.countP_cons_of_neg Bool.false_ne_true

@[simp] theorem failed_error : failed (.error e :: as) = failed as + 1 :=
  List.countP_cons_of_pos rfl

@[simp] theorem trues_append : trues (as ++ bs) = trues as + trues bs := List.countP_append

@[simp] theorem failed_append : failed (as ++ bs) = failed as + failed bs := List.countP_append

/-- Nothing is both true and failed. -/
theorem trues_add_failed_le : trues as + failed as ≤ as.length := by
  induction as with
  | nil => exact Nat.le_refl 0
  | cons a rest ih => rcases a with e | (_ | _) <;> simp <;> omega

theorem trues_replicate (n : Nat) : trues (List.replicate n (.ok true)) = n := by
  induction n with
  | zero => rfl
  | succ n ih => rw [List.replicate_succ, trues_true, ih]

theorem trues_replicate_false (n : Nat) : trues (List.replicate n (.ok false)) = 0 := by
  induction n with
  | zero => rfl
  | succ n ih => rw [List.replicate_succ, trues_false, ih]

end Counting

/-! ## Prefixes that force an answer -/

/-- A prefix of `n` booleans after which at least `k` are true, whatever follows. -/
def ForcesTrue (k n : Nat) (start : List Truth) : Prop :=
  ∀ rest, (start ++ rest).length = n → k ≤ trues (start ++ rest)

/-- A prefix of `n` booleans after which less than `k` can be true, whatever follows. -/
def ForcesFalse (k n : Nat) (start : List Truth) : Prop :=
  ∀ rest, (start ++ rest).length = n → trues (start ++ rest) + failed (start ++ rest) < k

/-- A prefix after which there is no need to know more. -/
def Forces (k n : Nat) (start : List Truth) : Prop := ForcesTrue k n start ∨ ForcesFalse k n start

section Forces

variable {k n : Nat} {start : List Truth}

theorem forcesTrue_iff (h : start.length ≤ n) : ForcesTrue k n start ↔ k ≤ trues start := by
  constructor
  · intro hf
    have := hf (List.replicate (n - start.length) (.ok false)) (by simp; omega)
    rwa [trues_append, trues_replicate_false] at this
  · intro hk rest _
    rw [trues_append]; omega

theorem forcesFalse_iff (h : start.length ≤ n) :
    ForcesFalse k n start ↔ trues start + failed start + (n - start.length) < k := by
  constructor
  · intro hf
    have := hf (List.replicate (n - start.length) (.ok true)) (by simp; omega)
    rw [trues_append, trues_replicate, failed_append] at this
    omega
  · intro hk rest hrest
    have := trues_add_failed_le rest
    rw [List.length_append] at hrest
    rw [trues_append, failed_append]; omega

end Forces

/-! ## The first failure -/

/-- The first failure, as that of an argument of `id`; the first position is `index`. -/
def firstFailure? (id : String) (index : Nat) : List Truth → Option Failure
  | [] => none
  | .ok _ :: rest => firstFailure? id (index + 1) rest
  | .error e :: _ => some (.inArgument id index e)

section FirstFailure

variable {id : String} {index : Nat} {as : List Truth}

theorem firstFailure?_concat (a : Truth) : firstFailure? id index (as ++ [a]) =
    (firstFailure? id index as <|> firstFailure? id (index + as.length) [a]) := by
  induction as generalizing index with
  | nil => rfl
  | cons b rest ih =>
    cases b with
    | error e => rfl
    | ok b =>
      rw [List.cons_append, firstFailure?, ih, firstFailure?, List.length_cons, Nat.add_assoc,
        Nat.add_comm 1]

theorem firstFailure?_isSome : (firstFailure? id index as).isSome ↔ 0 < failed as := by
  induction as generalizing index with
  | nil => simp [firstFailure?]
  | cons a rest ih => cases a <;> simp [firstFailure?, ih]

/-- The first failure is that of an argument before which none has failed. -/
theorem exists_of_firstFailure? {f : Failure} (h : firstFailure? id index as = some f) :
    ∃ i e, as[i]? = some (.error e) ∧ (∀ j < i, ∃ b, as[j]? = some (.ok b)) ∧
      f = .inArgument id (index + i) e := by
  induction as generalizing index with
  | nil => cases h
  | cons a rest ih =>
    cases a with
    | error e =>
      cases h
      exact ⟨0, e, rfl, fun j hj => absurd hj (Nat.not_lt_zero j), rfl⟩
    | ok b =>
      obtain ⟨i, e, hi, hbefore, rfl⟩ := ih h
      refine ⟨i + 1, e, hi, fun j hj => ?_, by rw [Nat.add_assoc, Nat.add_comm 1]⟩
      cases j with
      | zero => exact ⟨b, rfl⟩
      | succ j => exact hbefore j (by omega)

end FirstFailure

/-! ## Answers -/

/-- The answer to whether at least `k` are true. -/
inductive Decides (id : String) (index k : Nat) (as : List Truth) : Truth → Prop
  | enough : k ≤ trues as → Decides id index k as (.ok true)
  | tooFew : trues as + failed as < k → Decides id index k as (.ok false)
  | undecided {e : Failure} : trues as < k → k ≤ trues as + failed as →
      firstFailure? id index as = some e → Decides id index k as (.error e)

section Decides

variable {id : String} {index k : Nat} {as : List Truth} {r : Truth}

theorem Decides.eq_true_iff (h : Decides id index k as r) : r = .ok true ↔ k ≤ trues as := by
  cases h <;> simp <;> omega

theorem Decides.eq_false_iff (h : Decides id index k as r) :
    r = .ok false ↔ trues as + failed as < k := by
  cases h <;> simp <;> omega

end Decides

end Tally

end Xacml
