/-
Integer arithmetic is exact. Each function narrows its exact result to the range, and those that take
their arguments one after the other narrow every running result, so that a call ends in the exact
result, or in a failure that says that the divisor is zero or that a result on the way is out of range.
Main statement: what follows for the value and for the failure of a call, and that quotient and
remainder belong together.
-/
import Mathlib.Algebra.BigOperators.Group.List.Basic
import Mathlib.Algebra.Order.Ring.Int
import Mathlib.Data.List.Infix
import Xacml.Library.Numbers
import Xacml.Proofs.Evaluation.Kernel
import Xacml.Proofs.Typing.Signature

namespace Xacml

open Integer (InRange ofInt?)

/-! ## Exact results -/

/-- The functions of the library that compute on integers. -/
inductive IntegerOperation where
  | add
  | multiply
  | subtract
  | divide
  | mod
  | abs
deriving DecidableEq, Repr

namespace IntegerOperation

def all : List IntegerOperation := [.add, .multiply, .subtract, .divide, .mod, .abs]

def name : IntegerOperation → String
  | add => "integer-add"
  | multiply => "integer-multiply"
  | subtract => "integer-subtract"
  | divide => "integer-divide"
  | mod => "integer-mod"
  | abs => "integer-abs"

/-- The function of the library. -/
def function : IntegerOperation → FirstOrderFunction
  | add => Library.integerFold "integer-add" Integer.add? 0
  | multiply => Library.integerFold "integer-multiply" Integer.mul? 1
  | subtract => Library.integerSubtract
  | divide => Library.integerDivision "integer-divide" Integer.div?
  | mod => Library.integerDivision "integer-mod" Integer.mod?
  | abs => Library.integerAbs

/-- The numbers of arguments that a call can have. -/
def Takes : IntegerOperation → Nat → Prop
  | add, count | multiply, count => 2 ≤ count
  | subtract, count | divide, count | mod, count => count = 2
  | abs, count => count = 1

/-- The divisor is zero, so that there is no result. -/
def ZeroDivisor : IntegerOperation → List Int → Prop
  | divide, [_, b] | mod, [_, b] => b = 0
  | _, _ => False

/-- The exact result, if the divisor is not zero: the quotient is truncated toward zero, and the
remainder has the dividend's sign. -/
def exact : IntegerOperation → List Int → Int
  | add, xs => xs.sum
  | multiply, xs => xs.prod
  | subtract, [a, b] => a - b
  | divide, [a, b] => a.tdiv b
  | mod, [a, b] => a.tmod b
  | abs, [a] => |a|
  | _, _ => 0

/-- The results on the way to it: those of the arguments so far, and the quotient before a
remainder. -/
def steps : IntegerOperation → List Int → List Int
  | add, xs => xs.inits.map List.sum
  | multiply, xs => xs.inits.map List.prod
  | mod, [a, b] => [a.tdiv b]
  | op, xs => [op.exact xs]

theorem function_all : all.map function = Library.integerFunctions := rfl

/-- A call can have those numbers of arguments that the signature accepts. -/
theorem takes_iff_accepts {op : IntegerOperation} {count : Nat} :
    op.Takes count ↔ op.function.signature.Accepts (List.replicate count (.value .integer)) := by
  cases op with
  | add | multiply =>
    refine Iff.trans ?_ (Signature.accepts_variadicOf [.value .integer, .value .integer]).symm
    constructor
    · intro h
      obtain ⟨extra, rfl⟩ := Nat.exists_eq_add_of_le h
      exact ⟨extra, List.replicate_add _ _ _⟩
    · rintro ⟨extra, h⟩
      have hlength := congrArg List.length h
      simp at hlength
      change 2 ≤ count
      omega
  | subtract | divide | mod | abs =>
    refine Iff.trans ?_ Signature.accepts_fixed.symm
    constructor
    · rintro rfl
      rfl
    · intro h
      have hlength := congrArg List.length h
      rwa [List.length_replicate] at hlength

end IntegerOperation

/-! ## Narrowing -/

namespace Integer

theorem ofInt?_eq_some_iff {i : Int} {a : Int64} :
    ofInt? i = some a ↔ InRange i ∧ a.toInt = i := by
  constructor
  · intro h
    obtain rfl := toInt_of_ofInt? h
    exact ⟨inRange_toInt a, rfl⟩
  · rintro ⟨-, rfl⟩
    exact ofInt?_toInt a

theorem exists_of_inRange {i : Int} (h : InRange i) : ∃ a : Int64, a.toInt = i :=
  ⟨Int64.ofInt i, Int64.toInt_ofInt_of_le h.1 h.2⟩

theorem tmod_nonpos {a b : Int} (h : a ≤ 0) : a.tmod b ≤ 0 := by
  have hneg := Int.tmod_nonneg b (Int.neg_nonneg_of_nonpos h)
  rw [Int.neg_tmod] at hneg
  omega

/-- The magnitude of a remainder is at most that of the dividend. -/
theorem inRange_tmod {a b : Int} (ha : InRange a) : InRange (a.tmod b) := by
  have hle : (a.tmod b).natAbs ≤ a.natAbs := by
    rw [Int.natAbs_tmod]
    exact Nat.mod_le _ _
  have hpositive : 0 ≤ a → 0 ≤ a.tmod b := fun h => Int.tmod_nonneg b h
  have hnegative : a ≤ 0 → a.tmod b ≤ 0 := tmod_nonpos
  unfold InRange at *
  omega

theorem mod?_eq_some_iff {a b r : Int64} :
    mod? a b = some r ↔ InRange (a.toInt.tdiv b.toInt) ∧ r.toInt = a.toInt.tmod b.toInt := by
  have hmod : InRange (a.toInt.tmod b.toInt) := inRange_tmod (inRange_toInt a)
  unfold mod? div?
  constructor
  · intro h
    obtain ⟨q, hq, hr⟩ := Option.bind_eq_some_iff.1 h
    exact ⟨(ofInt?_eq_some_iff.1 hq).1, toInt_of_ofInt? hr⟩
  · rintro ⟨hq, hr⟩
    obtain ⟨q, hq'⟩ := exists_of_inRange hq
    exact Option.bind_eq_some_iff.2 ⟨q, ofInt?_eq_some_iff.2 ⟨hq, hq'⟩,
      ofInt?_eq_some_iff.2 ⟨hmod, hr⟩⟩

end Integer

namespace Library

open Integer

theorem forall_prefix_cons {α : Type} {P : List α → Prop} {x : α} {xs : List α} :
    (∀ front, front <+: x :: xs → P front) ↔ P [] ∧ ∀ front, front <+: xs → P (x :: front) := by
  constructor
  · intro h
    exact ⟨h [] List.nil_prefix, fun front hf => h _ ((List.prefix_cons_inj x).2 hf)⟩
  · rintro ⟨hnil, hcons⟩ front hf
    rcases List.prefix_cons_iff.1 hf with rfl | ⟨tail, rfl, htail⟩
    · exact hnil
    · exact hcons tail htail

/-- A fold has a result if every running result is in range, and then it is the exact one. -/
theorem foldIntegers_eq_some_iff {combine : Int → Int → Int} {step : Int64 → Int64 → Option Int64}
    (hstep : ∀ a b, step a b = ofInt? (combine a.toInt b.toInt)) {first total : Int64}
    {values : List Int64} :
    foldIntegers step first values = some total ↔
      (∀ front, front <+: values.map Int64.toInt → InRange (front.foldl combine first.toInt)) ∧
        total.toInt = (values.map Int64.toInt).foldl combine first.toInt := by
  unfold foldIntegers
  induction values generalizing first with
  | nil =>
    simp only [List.foldlM_nil, List.map_nil, List.prefix_nil, forall_eq, List.foldl_nil,
      inRange_toInt, true_and]
    rw [Int64.toInt_inj, eq_comm]
    exact Option.some_inj
  | cons v rest ih =>
    rw [List.foldlM_cons, hstep, List.map_cons, List.foldl_cons, forall_prefix_cons]
    simp only [List.foldl_nil, List.foldl_cons, inRange_toInt, true_and]
    cases hnext : ofInt? (combine first.toInt v.toInt) with
    | none =>
      have hout := ofInt?_eq_none_iff.1 hnext
      constructor
      · intro h
        cases h
      · rintro ⟨h, -⟩
        exact absurd (h [] List.nil_prefix) hout
    | some next =>
      have hvalue := toInt_of_ofInt? hnext
      rw [← hvalue]
      exact ih

end Library

theorem AttributeValue.mapM_getInteger (args : List Int64) :
    (args.map AttributeValue.integer).mapM AttributeValue.getInteger = .ok args := by
  induction args with
  | nil => rfl
  | cons a rest ih =>
    rw [List.map_cons, List.mapM_cons, ih]
    rfl

/-! ## How a call ends -/

namespace IntegerOperation

/-- The failure that a problem of the operation ends a call in. -/
def failure (op : IntegerOperation) (problem : Problem) : Failure :=
  .wrap (.body op.function.id) (.of problem)

/-- How a call on integers can end. -/
inductive Ends (op : IntegerOperation) (args : List Int64) : Except Failure Value → Prop where
  | value {i : Int64} (hz : ¬ op.ZeroDivisor (args.map Int64.toInt))
      (hsteps : ∀ r ∈ op.steps (args.map Int64.toInt), InRange r)
      (hi : i.toInt = op.exact (args.map Int64.toInt)) : Ends op args (.ok (.single (.integer i)))
  | divisionByZero (hz : op.ZeroDivisor (args.map Int64.toInt)) :
      Ends op args (.error (op.failure (.divisionByZero op.name)))
  | overflow {r : Int} (hz : ¬ op.ZeroDivisor (args.map Int64.toInt))
      (hr : r ∈ op.steps (args.map Int64.toInt)) (hout : ¬ InRange r) :
      Ends op args (.error (op.failure (.overflow op.name)))

variable {op : IntegerOperation} {args : List Int64}

/-- Where every result on the way is in range, the exact result is. -/
theorem inRange_exact (h : op.Takes args.length)
    (hsteps : ∀ r ∈ op.steps (args.map Int64.toInt), InRange r) :
    InRange (op.exact (args.map Int64.toInt)) := by
  cases op with
  | add => exact hsteps _ (List.mem_map_of_mem ((List.mem_inits _ _).2 List.prefix_rfl))
  | multiply => exact hsteps _ (List.mem_map_of_mem ((List.mem_inits _ _).2 List.prefix_rfl))
  | subtract | divide =>
    obtain ⟨a, b, rfl⟩ := List.length_eq_two.1 h
    exact hsteps _ (List.mem_singleton_self _)
  | mod =>
    obtain ⟨a, b, rfl⟩ := List.length_eq_two.1 h
    exact Integer.inRange_tmod (Integer.inRange_toInt a)
  | abs =>
    obtain ⟨a, rfl⟩ := List.length_eq_one_iff.1 h
    exact hsteps _ (List.mem_singleton_self _)

/-- A narrowed result, if it is there just when all results on the way are in range. -/
theorem Ends.of_orOverflow {answer : Option Int64} (h : op.Takes args.length)
    (hz : ¬ op.ZeroDivisor (args.map Int64.toInt))
    (hanswer : ∀ i, answer = some i ↔ (∀ r ∈ op.steps (args.map Int64.toInt), InRange r) ∧
      i.toInt = op.exact (args.map Int64.toInt)) :
    op.Ends args ((Library.orOverflow op.name answer).mapError (.wrap (.body op.function.id))) := by
  cases answer with
  | some i =>
    obtain ⟨hsteps, hi⟩ := (hanswer i).1 rfl
    exact .value hz hsteps hi
  | none =>
    have hout : ¬ ∀ r ∈ op.steps (args.map Int64.toInt), InRange r := by
      intro hsteps
      obtain ⟨i, hi⟩ := Integer.exists_of_inRange (inRange_exact h hsteps)
      cases (hanswer i).2 ⟨hsteps, hi⟩
    push Not at hout
    obtain ⟨r, hr, hr'⟩ := hout
    exact .overflow hz hr hr'

/-- A narrowed quotient, after a look at the divisor. -/
theorem Ends.of_division {a b : Int64} {quotient : Option Int64} (h : op.Takes [a, b].length)
    (hz : op.ZeroDivisor [a.toInt, b.toInt] ↔ b = 0)
    (hanswer : ∀ i, quotient = some i ↔ (∀ r ∈ op.steps [a.toInt, b.toInt], InRange r) ∧
      i.toInt = op.exact [a.toInt, b.toInt]) :
    op.Ends [a, b] ((if b = 0 then .error (.of (.divisionByZero op.name))
      else Library.orOverflow op.name quotient).mapError (.wrap (.body op.function.id))) := by
  split_ifs with hb
  · exact .divisionByZero (hz.2 hb)
  · exact .of_orOverflow h (mt hz.1 hb) hanswer

theorem on_fold {name : String} {step : Int64 → Int64 → Option Int64} {first : Int64} :
    (Library.integerFold name step first).on (args.map .integer) =
      (Library.orOverflow name (Library.foldIntegers step first args)).mapError
        (.wrap (.body (Library.functionId "1.0" name))) := by
  rw [FirstOrder.on_kernel rfl]
  dsimp only
  rw [AttributeValue.mapM_getInteger]
  rfl

theorem on_division {name : String} {quotient : Int64 → Int64 → Option Int64} {a b : Int64} :
    (Library.integerDivision name quotient).on [.integer a, .integer b] =
      (if b = 0 then .error (.of (.divisionByZero name))
        else Library.orOverflow name (quotient a b)).mapError
          (.wrap (.body (Library.functionId "1.0" name))) := by
  rw [FirstOrder.on_kernel rfl]
  rfl

theorem on_unary {name : String} {answer : Int64 → Except Failure Value} {a : Int64} :
    (Library.unary (Library.functionId "1.0" name) .integer .integer fun x => do
      answer (← x.getInteger)).on [.integer a] =
        (answer a).mapError (.wrap (.body (Library.functionId "1.0" name))) := by
  rw [FirstOrder.on_kernel rfl]
  rfl

theorem toInt_eq_zero_iff {b : Int64} : b.toInt = 0 ↔ b = 0 := by
  rw [← Int64.toInt_inj, Int64.toInt_zero]

/-- A call ends in the exact result, or says what is in its way. -/
theorem ends (h : op.Takes args.length) :
    op.Ends args (op.function.on (args.map .integer)) := by
  cases op with
  | add =>
    rw [function, on_fold]
    refine .of_orOverflow h not_false fun i => ?_
    have hstep : ∀ a b, Integer.add? a b = ofInt? (a.toInt + b.toInt) := fun _ _ => rfl
    rw [Library.foldIntegers_eq_some_iff hstep]
    simp only [steps, exact, List.forall_mem_map, List.mem_inits, List.sum_eq_foldl, Int64.toInt_zero]
  | multiply =>
    rw [function, on_fold]
    refine .of_orOverflow h not_false fun i => ?_
    have hstep : ∀ a b, Integer.mul? a b = ofInt? (a.toInt * b.toInt) := fun _ _ => rfl
    rw [Library.foldIntegers_eq_some_iff hstep]
    simp only [steps, exact, List.forall_mem_map, List.mem_inits, List.prod_eq_foldl, Int64.toInt_one]
  | subtract =>
    obtain ⟨a, b, rfl⟩ := List.length_eq_two.1 h
    rw [function, List.map_cons, List.map_cons, List.map_nil, FirstOrder.on_kernel rfl]
    refine .of_orOverflow h not_false fun i => ?_
    rw [Integer.sub?, Integer.ofInt?_eq_some_iff]
    simp [steps, exact]
  | divide =>
    obtain ⟨a, b, rfl⟩ := List.length_eq_two.1 h
    rw [function, List.map_cons, List.map_cons, List.map_nil, on_division]
    refine .of_division h toInt_eq_zero_iff fun i => ?_
    rw [Integer.div?, Integer.ofInt?_eq_some_iff]
    simp [steps, exact]
  | mod =>
    obtain ⟨a, b, rfl⟩ := List.length_eq_two.1 h
    rw [function, List.map_cons, List.map_cons, List.map_nil, on_division]
    refine .of_division h toInt_eq_zero_iff fun i => ?_
    rw [Integer.mod?_eq_some_iff]
    simp [steps, exact]
  | abs =>
    obtain ⟨a, rfl⟩ := List.length_eq_one_iff.1 h
    rw [function, List.map_cons, List.map_nil, Library.integerAbs, on_unary]
    refine .of_orOverflow h not_false fun i => ?_
    rw [Integer.abs?, Integer.ofInt?_eq_some_iff, ← Int.abs_eq_natAbs]
    simp [steps, exact]

/-- The value of a call, and when there is one. -/
theorem on_eq_ok_iff (h : op.Takes args.length) {v : Value} :
    op.function.on (args.map .integer) = .ok v ↔
      ¬ op.ZeroDivisor (args.map Int64.toInt) ∧
        (∀ r ∈ op.steps (args.map Int64.toInt), InRange r) ∧
          ∃ i : Int64, v = .single (.integer i) ∧ i.toInt = op.exact (args.map Int64.toInt) := by
  have hends := ends h
  generalize op.function.on (args.map .integer) = outcome at hends ⊢
  cases hends with
  | @value i hz hsteps hi =>
    constructor
    · rintro ⟨⟩
      exact ⟨hz, hsteps, i, rfl, hi⟩
    · rintro ⟨-, -, j, rfl, hj⟩
      rw [Int64.toInt_inj.1 (hi.trans hj.symm)]
  | divisionByZero hz =>
    refine iff_of_false nofun ?_
    rintro ⟨hz', -⟩
    exact hz' hz
  | overflow hz hr hout =>
    refine iff_of_false nofun ?_
    rintro ⟨-, hsteps, -⟩
    exact hout (hsteps _ hr)

/-- The remainder is smaller than the divisor. -/
theorem abs_tmod_lt {a b : Int} (hb : b ≠ 0) : |a.tmod b| < |b| := by
  rw [Int.abs_eq_natAbs, Int.abs_eq_natAbs, Int.natAbs_tmod]
  have hlt := Nat.mod_lt a.natAbs (Int.natAbs_pos.2 hb)
  omega

/-- A call that succeeds has the exact result, and one that fails reports a zero divisor or a result
on the way that is out of range. Quotient and remainder make up the dividend. -/
theorem exact_or_reported :
    (∀ (op : IntegerOperation) (args : List Int64), op.Takes args.length →
      (∀ v, op.function.on (args.map .integer) = .ok v →
        ∃ i : Int64, v = .single (.integer i) ∧ i.toInt = op.exact (args.map Int64.toInt)) ∧
      (op.ZeroDivisor (args.map Int64.toInt) → ∃ e, op.function.on (args.map .integer) = .error e) ∧
      ∀ e, op.function.on (args.map .integer) = .error e →
        e.status = .processingError ∧
          (op.ZeroDivisor (args.map Int64.toInt) ∨
            ∃ r ∈ op.steps (args.map Int64.toInt), ¬ InRange r)) ∧
    ∀ a b q r : Int64, divide.function.on [.integer a, .integer b] = .ok (.single (.integer q)) →
      mod.function.on [.integer a, .integer b] = .ok (.single (.integer r)) →
        a.toInt = b.toInt * q.toInt + r.toInt ∧ |r.toInt| < |b.toInt| ∧
          (0 ≤ a.toInt → 0 ≤ r.toInt) ∧ (a.toInt ≤ 0 → r.toInt ≤ 0) := by
  constructor
  · intro op args h
    refine ⟨?_, ?_, ?_⟩
    · intro v hv
      obtain ⟨-, -, hexact⟩ := (on_eq_ok_iff h).1 hv
      exact hexact
    · intro hz
      cases houtcome : op.function.on (args.map .integer) with
      | ok v => exact absurd hz ((on_eq_ok_iff h).1 houtcome).1
      | error e => exact ⟨e, rfl⟩
    · intro e he
      have hends := ends h
      rw [he] at hends
      cases hends with
      | divisionByZero hz => exact ⟨rfl, .inl hz⟩
      | overflow _ hr hout => exact ⟨rfl, .inr ⟨_, hr, hout⟩⟩
  · intro a b q r hq hr
    have htakes : divide.Takes [a, b].length ∧ mod.Takes [a, b].length := ⟨rfl, rfl⟩
    obtain ⟨hb, -, q', hq', hquotient⟩ := (on_eq_ok_iff htakes.1).1 hq
    obtain ⟨-, -, r', hr', hremainder⟩ := (on_eq_ok_iff htakes.2).1 hr
    cases hq'
    cases hr'
    change q.toInt = a.toInt.tdiv b.toInt at hquotient
    change r.toInt = a.toInt.tmod b.toInt at hremainder
    rw [hquotient, hremainder]
    exact ⟨(Int.mul_tdiv_add_tmod _ _).symm, abs_tmod_lt hb, Int.tmod_nonneg _,
      Integer.tmod_nonpos⟩

theorem exact_or_reported_seven :
    add.Takes 3 ∧
      (∀ v, add.function.on [.integer 9, .integer (-4), .integer 2] = .ok v →
        ∃ i : Int64, v = .single (.integer i) ∧ i.toInt = 7) ∧
      divide.function.on [.integer (-7), .integer 2] = .ok (.single (.integer (-3))) ∧
      mod.function.on [.integer (-7), .integer 2] = .ok (.single (.integer (-1))) ∧
      (-7 : Int64).toInt = (2 : Int64).toInt * (-3 : Int64).toInt + (-1 : Int64).toInt := by
  have htakes : add.Takes 3 := by
    change 2 ≤ 3
    omega
  have htwo : divide.Takes ([-7, 2] : List Int64).length ∧ mod.Takes ([-7, 2] : List Int64).length :=
    ⟨rfl, rfl⟩
  have hstep : ∀ r ∈ [(-7 : Int64).toInt.tdiv (2 : Int64).toInt], InRange r := by decide
  have hdivisor : (2 : Int64).toInt ≠ 0 := by decide
  have hq : divide.function.on [.integer (-7), .integer 2] = .ok (.single (.integer (-3))) :=
    (on_eq_ok_iff htwo.1).2 ⟨hdivisor, hstep, -3, rfl, rfl⟩
  have hr : mod.function.on [.integer (-7), .integer 2] = .ok (.single (.integer (-1))) :=
    (on_eq_ok_iff htwo.2).2 ⟨hdivisor, hstep, -1, rfl, rfl⟩
  exact ⟨htakes, (exact_or_reported.1 .add [9, -4, 2] htakes).1, hq, hr,
    (exact_or_reported.2 (-7) 2 (-3) (-1) hq hr).1⟩

end IntegerOperation

end Xacml
