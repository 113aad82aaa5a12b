/-
When integer arithmetic overflows. A call succeeds just when every result on the way is in range. With
two arguments that is when the exact result is, but for the remainder of the least integer by minus
one, whose quotient is not. With more arguments a running result can leave the range before the exact
result comes back into it, so that a sum or a product can depend on the order of the arguments.
-/
import Mathlib.Algebra.BigOperators.Group.List.Lemmas
import Xacml.Proofs.Arithmetic.Integer

namespace Xacml

open Integer (InRange)

/-! ## Quotients -/

/-- A quotient leaves the range in one case only. -/
theorem Integer.inRange_tdiv_iff {a b : Int} (ha : InRange a) (hb : b ≠ 0) :
    InRange (a.tdiv b) ↔ ¬ (a = -0x8000000000000000 ∧ b = -1) := by
  have hmagnitude : (a.tdiv b).natAbs = a.natAbs / b.natAbs := Int.natAbs_tdiv a b
  unfold InRange at *
  constructor
  · rintro ⟨-, hlt⟩ ⟨rfl, rfl⟩
    rw [Int.tdiv_neg, Int.tdiv_one] at hlt
    omega
  · intro h
    by_cases hone : b.natAbs = 1
    · obtain rfl | rfl : b = 1 ∨ b = -1 := by omega
      · rwa [Int.tdiv_one]
      · rw [Int.tdiv_neg, Int.tdiv_one]
        omega
    · have hhalf : a.natAbs / b.natAbs ≤ a.natAbs / 2 := Nat.div_le_div_left (by omega) (by decide)
      omega

namespace IntegerOperation

variable {op : IntegerOperation} {args : List Int64}

/-! ## Two arguments -/

/-- With at most two arguments, the exact result tells about those on the way. -/
theorem forall_steps_inRange_iff (h : op.Takes args.length) (htwo : args.length ≤ 2)
    (hz : ¬ op.ZeroDivisor (args.map Int64.toInt)) :
    (∀ r ∈ op.steps (args.map Int64.toInt), InRange r) ↔
      InRange (op.exact (args.map Int64.toInt)) ∧ ¬ (op = .mod ∧ args = [Int64.minValue, -1]) := by
  cases op with
  | add | multiply =>
    obtain ⟨a, b, rfl⟩ := List.length_eq_two.1 (Nat.le_antisymm htwo h)
    have ha := Integer.inRange_toInt a
    have hzero : InRange 0 := by decide
    have hone : InRange 1 := by decide
    simp [steps, exact, ha, hzero, hone]
  | subtract | divide =>
    obtain ⟨a, b, rfl⟩ := List.length_eq_two.1 h
    simp [steps, exact]
  | mod =>
    obtain ⟨a, b, rfl⟩ := List.length_eq_two.1 h
    have ha := Integer.inRange_toInt a
    have hexact : InRange (a.toInt.tmod b.toInt) := Integer.inRange_tmod ha
    have hquotient := Integer.inRange_tdiv_iff ha hz
    have hleast : a.toInt = -0x8000000000000000 ↔ a = Int64.minValue := by
      rw [← Int64.toInt_inj, Int64.toInt_minValue]
      rfl
    have hminus : b.toInt = -1 ↔ b = -1 := by
      rw [← Int64.toInt_inj]
      rfl
    simp [steps, exact, hexact, hquotient, hleast, hminus]
  | abs =>
    obtain ⟨a, rfl⟩ := List.length_eq_one_iff.1 h
    simp [steps, exact]

/-! ## Success -/

/-- A call succeeds just when the divisor is not zero and every result on the way is in range. -/
theorem exists_on_eq_ok_iff (h : op.Takes args.length) :
    (∃ i : Int64, op.function.on (args.map .integer) = .ok (.single (.integer i)) ∧
        i.toInt = op.exact (args.map Int64.toInt)) ↔
      ¬ op.ZeroDivisor (args.map Int64.toInt) ∧
        ∀ r ∈ op.steps (args.map Int64.toInt), InRange r := by
  constructor
  · rintro ⟨i, hi, -⟩
    obtain ⟨hz, hsteps, -⟩ := (on_eq_ok_iff h).1 hi
    exact ⟨hz, hsteps⟩
  · rintro ⟨hz, hsteps⟩
    obtain ⟨i, hi⟩ := Integer.exists_of_inRange (inRange_exact h hsteps)
    exact ⟨i, (on_eq_ok_iff h).2 ⟨hz, hsteps, i, rfl, hi⟩, hi⟩

/-- Where the divisor is not zero and a result on the way is out of range, a call says so. -/
theorem on_eq_overflow (h : op.Takes args.length) (hz : ¬ op.ZeroDivisor (args.map Int64.toInt))
    (hout : ¬ ∀ r ∈ op.steps (args.map Int64.toInt), InRange r) :
    op.function.on (args.map .integer) = .error (op.failure (.overflow op.name)) := by
  have hends := ends h
  generalize op.function.on (args.map .integer) = outcome at hends ⊢
  cases hends with
  | value _ hsteps _ => exact absurd hsteps hout
  | divisionByZero hzero => exact absurd hzero hz
  | overflow => rfl

/-! ## Order -/

/-- Sums and products do not depend on the order. -/
theorem exact_perm (hop : op = .add ∨ op = .multiply) {xs ys : List Int} (h : xs.Perm ys) :
    op.exact xs = op.exact ys := by
  obtain rfl | rfl := hop
  · exact h.sum_eq
  · exact h.prod_eq

/-- Two orders of the arguments of a sum or a product have one outcome if both or neither keep the
running results in range. -/
theorem on_perm_eq_iff (hop : op = .add ∨ op = .multiply) (h : op.Takes args.length)
    {args' : List Int64} (hperm : args'.Perm args) :
    op.function.on (args'.map .integer) = op.function.on (args.map .integer) ↔
      ((∀ r ∈ op.steps (args'.map Int64.toInt), InRange r) ↔
        ∀ r ∈ op.steps (args.map Int64.toInt), InRange r) := by
  have h' : op.Takes args'.length := hperm.length_eq ▸ h
  have hz : ∀ xs : List Int, ¬ op.ZeroDivisor xs := by
    obtain rfl | rfl := hop <;> exact fun _ => not_false
  by_cases hin : ∀ r ∈ op.steps (args.map Int64.toInt), InRange r <;>
    by_cases hin' : ∀ r ∈ op.steps (args'.map Int64.toInt), InRange r
  · obtain ⟨i, hi, hexact⟩ := (exists_on_eq_ok_iff h).2 ⟨hz _, hin⟩
    obtain ⟨i', hi', hexact'⟩ := (exists_on_eq_ok_iff h').2 ⟨hz _, hin'⟩
    rw [exact_perm hop (hperm.map Int64.toInt), ← hexact, Int64.toInt_inj] at hexact'
    rw [hi, hi', hexact']
    exact iff_of_true rfl (iff_of_true hin' hin)
  · obtain ⟨i, hi, -⟩ := (exists_on_eq_ok_iff h).2 ⟨hz _, hin⟩
    rw [hi, on_eq_overflow h' (hz _) hin']
    exact iff_of_false nofun fun hboth => hin' (hboth.2 hin)
  · obtain ⟨i, hi, -⟩ := (exists_on_eq_ok_iff h').2 ⟨hz _, hin'⟩
    rw [hi, on_eq_overflow h (hz _) hin]
    exact iff_of_false nofun fun hboth => hin (hboth.1 hin')
  · rw [on_eq_overflow h (hz _) hin, on_eq_overflow h' (hz _) hin']
    exact iff_of_true rfl (iff_of_false hin' hin)

/-- A call succeeds, with the exact result, just when there is one and every result on the way is in
range. With at most two arguments it is enough that the exact result is in range, but for one remainder;
and two orders of the arguments of a sum or a product have one outcome if both or neither keep the
running results in range. -/
theorem succeeds_iff_steps_inRange (h : op.Takes args.length) :
    ((∃ i : Int64, op.function.on (args.map .integer) = .ok (.single (.integer i)) ∧
        i.toInt = op.exact (args.map Int64.toInt)) ↔
      ¬ op.ZeroDivisor (args.map Int64.toInt) ∧
        ∀ r ∈ op.steps (args.map Int64.toInt), InRange r) ∧
    (args.length ≤ 2 →
      ((∃ i : Int64, op.function.on (args.map .integer) = .ok (.single (.integer i)) ∧
          i.toInt = op.exact (args.map Int64.toInt)) ↔
        ¬ op.ZeroDivisor (args.map Int64.toInt) ∧ InRange (op.exact (args.map Int64.toInt)) ∧
          ¬ (op = .mod ∧ args = [Int64.minValue, -1]))) ∧
    (op = .add ∨ op = .multiply → ∀ args' : List Int64, args'.Perm args →
      (op.function.on (args'.map .integer) = op.function.on (args.map .integer) ↔
        ((∀ r ∈ op.steps (args'.map Int64.toInt), InRange r) ↔
          ∀ r ∈ op.steps (args.map Int64.toInt), InRange r))) := by
  refine ⟨exists_on_eq_ok_iff h, ?_, fun hop args' hperm => on_perm_eq_iff hop h hperm⟩
  intro htwo
  rw [exists_on_eq_ok_iff h]
  exact and_congr_right fun hz => forall_steps_inRange_iff h htwo hz

/-- The sum comes back before it leaves the range, or after. -/
theorem succeeds_iff_steps_inRange_add :
    add.Takes ([Int64.maxValue, -1, 1] : List Int64).length ∧
      (∃ i : Int64, add.function.on ([Int64.maxValue, -1, 1].map .integer) =
        .ok (.single (.integer i)) ∧ i.toInt = 0x7FFFFFFFFFFFFFFF) ∧
      add.function.on ([Int64.maxValue, 1, -1].map .integer) ≠
        add.function.on ([Int64.maxValue, -1, 1].map .integer) := by
  have htakes : add.Takes ([Int64.maxValue, -1, 1] : List Int64).length := by
    change 2 ≤ 3
    omega
  have hback : ∀ r ∈ add.steps ([Int64.maxValue, -1, 1].map Int64.toInt), InRange r := by decide
  have hpast : ¬ ∀ r ∈ add.steps ([Int64.maxValue, 1, -1].map Int64.toInt), InRange r := by decide
  obtain ⟨hsucceeds, -, horder⟩ := succeeds_iff_steps_inRange htakes
  refine ⟨htakes, hsucceeds.2 ⟨not_false, hback⟩, fun hsame => hpast ?_⟩
  have hswap : ([Int64.maxValue, 1, -1] : List Int64).Perm [Int64.maxValue, -1, 1] := by decide
  exact ((horder (.inl rfl) _ hswap).1 hsame).2 hback

/-- A sum in range can fail for its order, and a remainder in range for its quotient. -/
theorem exact_inRange_insufficient :
    (add.Takes 3 ∧ InRange (add.exact ([Int64.maxValue, 1, -1].map Int64.toInt)) ∧
      (∀ v, add.function.on [.integer Int64.maxValue, .integer 1, .integer (-1)] ≠ .ok v) ∧
      ∃ v, add.function.on [.integer Int64.maxValue, .integer (-1), .integer 1] = .ok v) ∧
    mod.Takes 2 ∧ ¬ mod.ZeroDivisor ([Int64.minValue, -1].map Int64.toInt) ∧
      InRange (mod.exact ([Int64.minValue, -1].map Int64.toInt)) ∧
        ∀ v, mod.function.on [.integer Int64.minValue, .integer (-1)] ≠ .ok v := by
  have hadd : ∀ a b c : Int64, add.Takes [a, b, c].length := by
    intro a b c
    change 2 ≤ 3
    omega
  have hmod : mod.Takes ([Int64.minValue, -1] : List Int64).length := rfl
  refine ⟨⟨hadd 0 0 0, by decide, fun v hv => ?_, ?_⟩, hmod, ?_, by decide, fun v hv => ?_⟩
  · obtain ⟨-, hsteps, -⟩ := (on_eq_ok_iff (hadd Int64.maxValue 1 (-1))).1 hv
    exact absurd hsteps (by decide)
  · have hsteps : ∀ r ∈ add.steps ([Int64.maxValue, -1, 1].map Int64.toInt), InRange r := by decide
    obtain ⟨i, hi, -⟩ := (exists_on_eq_ok_iff (hadd Int64.maxValue (-1) 1)).2 ⟨not_false, hsteps⟩
    exact ⟨_, hi⟩
  · exact (by decide : (-1 : Int64).toInt ≠ 0)
  · obtain ⟨-, hsteps, -⟩ := (on_eq_ok_iff hmod).1 hv
    exact absurd hsteps (by decide)

end IntegerOperation

end Xacml
