/-
The order of values. But for doubles, the values of an ordered type have places, rows of numbers that
are compared from the left: two values are the same if their places are, and the one is less than the
other if its place comes first. Main statement: the five functions that compare two values of such a
type speak of one total order, in which equal values, such as one instant on two clocks, stand for each
other; and none of their calls fails.
-/
import Xacml.Proofs.Combinator.SetFunctions

namespace Xacml

open Library (Comparison orderedTypes)

/-! ## Places -/

/-- A time of day is told by its second of the day and its nanoseconds. -/
theorem Calendar.Time.eq_of_secondOfDay {a b : Time} (hs : a.secondOfDay = b.secondOfDay)
    (hn : a.nano = b.nano) : a = b := by
  obtain ⟨hour, minute, second, nano, hvalid⟩ := a
  obtain ⟨hour', minute', second', nano', hvalid'⟩ := b
  obtain ⟨-, hminute, hsecond, -⟩ := id hvalid
  obtain ⟨-, hminute', hsecond', -⟩ := id hvalid'
  simp only [secondOfDay] at hs hn
  obtain ⟨rfl, rfl, rfl⟩ : hour = hour' ∧ minute = minute' ∧ second = second' := by omega
  cases hn
  rfl

/-- The comparison of two numbers is that of the integers they are. -/
theorem compare_natCast (m n : Nat) : compare (m : Int) (n : Int) = compare m n := by
  rw [Int.compare_eq_ite_lt, Nat.compare_eq_ite_lt]
  simp only [Int.ofNat_lt]

namespace AttributeValue

/-- The code points of a text. -/
def codePoints (s : List Char) : List Int := s.map fun c => (c.toNat : Int)

theorem codePoints_inj {s t : List Char} : codePoints s = codePoints t ↔ s = t := by
  have hinj : Function.Injective fun c : Char => (c.toNat : Int) := fun c d h =>
    Char.toNat_inj.1 (Int.ofNat.inj h)
  exact (List.map_injective_iff.2 hinj).eq_iff

/-- One text is before another if its code points are. -/
theorem compare_codePoints_eq_lt {s t : List Char} :
    compare (codePoints s) (codePoints t) = .lt ↔ s < t := by
  induction s generalizing t with
  | nil => cases t <;> simp [codePoints]
  | cons c s ih =>
    cases t with
    | nil => simp [codePoints]
    | cons d t =>
      have hhead : compare (c.toNat : Int) (d.toNat : Int) = .lt ↔ c < d := by
        rw [compare_natCast, Nat.compare_eq_lt]
        exact Iff.rfl
      have heq : compare (c.toNat : Int) (d.toNat : Int) = .eq ↔ c = d := by
        rw [compare_natCast, Nat.compare_eq_eq, Char.toNat_inj]
      have ih := ih (t := t)
      simp only [codePoints, List.map_cons, List.compare_cons_cons, Ordering.then_eq_lt] at ih ⊢
      rw [hhead, heq, ih, List.cons_lt_cons_iff]

/-- Texts are compared by their code points. -/
theorem compare_codePoints (s t : String) :
    compare (codePoints s.toList) (codePoints t.toList) = compare s t := by
  have hlt {s t : String} (h : compare (codePoints s.toList) (codePoints t.toList) = .lt) :
      compare s t = .lt :=
    compareOfLessAndEq_eq_lt.2 (String.lt_iff.2 (compare_codePoints_eq_lt.1 h))
  cases h : compare (codePoints s.toList) (codePoints t.toList) with
  | lt => exact (hlt h).symm
  | eq =>
    obtain rfl := String.toList_inj.1 (codePoints_inj.1 (Std.LawfulEqOrd.eq_of_compare h))
    exact Std.ReflOrd.compare_self.symm
  | gt => exact (Std.OrientedCmp.gt_of_lt (hlt (Std.OrientedCmp.lt_of_gt h))).symm

/-- Where a value is in the order of its type, if the type has a total one. -/
def place : AttributeValue → List Int
  | .string s => codePoints s.toList
  | .integer i => [i.toInt]
  | .date d => [d.year, d.month, d.day]
  | .dateTime t => [t.seconds, t.time.nano]
  | .time t => [t.secondOfDay, t.nano]
  | _ => []

/-- Two values of one type, whose values all have places. -/
inductive Placed : AttributeValue → AttributeValue → Prop where
  | string (s t : String) : Placed (.string s) (.string t)
  | integer (i j : Int64) : Placed (.integer i) (.integer j)
  | date (d e : Calendar.Date) : Placed (.date d) (.date e)
  | dateTime (t u : Calendar.DateTime) : Placed (.dateTime t) (.dateTime u)
  | time (t u : Calendar.Time) : Placed (.time t) (.time u)

variable {t : AttributeType} {a b : AttributeValue}

theorem placed (ht : t ∈ orderedTypes) (hd : t ≠ .double) (ha : a.type = t) (hb : b.type = t) :
    Placed a b := by
  subst ha
  cases a with
  | double => exact absurd rfl hd
  | boolean | anyURI | hexBinary => simp [orderedTypes, type] at ht
  | string | integer | date | dateTime | time =>
    cases b <;> cases hb
    constructor

/-- The order of values is that of their places. -/
theorem Placed.compare?_eq (h : Placed a b) : a.compare? b = some (compare a.place b.place) := by
  cases h with
  | string s t => simp [compare?, place, compare_codePoints]
  | integer => simp [compare?, place]
  | date => simp [compare?, place, Calendar.Date.compare, compare_natCast]
  | dateTime => simp [compare?, place, Calendar.DateTime.compare, compare_natCast]
  | time => simp [compare?, place, Calendar.Time.compare, compare_natCast]

/-- Values are the same if their places are. -/
theorem Placed.same_eq (h : Placed a b) : a.same b = (compare a.place b.place).isEq := by
  rw [Bool.eq_iff_iff, Ordering.isEq_iff_eq_eq, Std.LawfulEqOrd.compare_eq_iff_eq]
  cases h with
  | string s t => simp [same, place, codePoints_inj, String.toList_inj]
  | integer => simp [same, place, Int64.toInt_inj]
  | date d e =>
    obtain ⟨year, month, day, _⟩ := d
    obtain ⟨year', month', day', _⟩ := e
    simp only [same, place, decide_eq_true_eq, date.injEq, Calendar.Date.mk.injEq, List.cons.injEq,
      Int.natCast_inj, and_true]
  | dateTime =>
    simp only [same, place, Calendar.DateTime.sameInstant, Calendar.DateTime.instant, beq_iff_eq,
      Prod.mk.injEq, List.cons.injEq, Int.natCast_inj, and_true]
  | time t u =>
    simp only [same, place, decide_eq_true_eq, time.injEq, List.cons.injEq, Int.natCast_inj, and_true]
    constructor
    · rintro rfl
      exact ⟨rfl, rfl⟩
    · rintro ⟨hs, hn⟩
      exact Calendar.Time.eq_of_secondOfDay hs hn

end AttributeValue

/-! ## Functions -/

/-- The functions of the library that compare two values of a type. -/
inductive PairTest where
  | equal
  | ordered (c : Comparison)
deriving DecidableEq, Repr

namespace PairTest

def function (t : AttributeType) : PairTest → FirstOrderFunction
  | equal => Library.equal t
  | ordered c => Library.compare t c

/-- Whether two values pass whose places are in this order. -/
def holds : PairTest → Ordering → Bool
  | equal, o => o.isEq
  | ordered c, o => c.holds o

/-- The tests of which two values pass one. -/
def exclusive : List PairTest := [ordered .less, equal, ordered .greater]

theorem existsUnique_holds (o : Ordering) : ∃! test, test ∈ exclusive ∧ test.holds o = true := by
  have hpick : ∃ test ∈ exclusive, test.holds o = true ∧
      ∀ other ∈ exclusive, other.holds o = true → other = test := by
    cases o <;> decide
  obtain ⟨test, hmem, hholds, hunique⟩ := hpick
  exact ⟨test, ⟨hmem, hholds⟩, fun other h => hunique other h.1 h.2⟩

/-- A call of the test with two values is true. -/
def Passes (test : PairTest) (t : AttributeType) (a b : AttributeValue) : Prop :=
  (test.function t).on [a, b] = .ok (.ofBool true)

variable {t : AttributeType} {a b c : AttributeValue}

theorem function_mem_firstOrder (ht : t ∈ orderedTypes) (test : PairTest) :
    test.function t ∈ Library.firstOrder := by
  cases test with
  | equal => exact Library.mem_firstOrder_equal t
  | ordered c =>
    have hc : c ∈ Comparison.all := by cases c <;> decide
    have hcomparisons : Library.compare t c ∈ Library.comparisons := by
      simp only [Library.comparisons, List.mem_append]
      exact .inr (List.mem_flatMap.2 ⟨t, ht, List.mem_map_of_mem hc⟩)
    simp only [Library.firstOrder, List.mem_append]
    exact .inl (.inl (.inl (.inl hcomparisons)))

section Answers

variable (ht : t ∈ orderedTypes) (hd : t ≠ .double) (ha : a.type = t) (hb : b.type = t)
include ht hd ha hb

/-- The kernel of a test answers by the order of the places. -/
theorem function_eq_binary (test : PairTest) :
    ∃ id run, test.function t = Library.binary id .boolean t run ∧
      run a b = .ok (.ofBool (test.holds (compare a.place b.place))) := by
  have hplaced := AttributeValue.placed ht hd ha hb
  cases test with
  | equal =>
    refine ⟨Library.typedId t "equal", fun v w => .ok (.ofBool (v.same w)), ?_, ?_⟩
    · cases t with
      | double => exact absurd rfl hd
      | _ => rfl
    · exact congrArg (fun p => Except.ok (Value.ofBool p)) hplaced.same_eq
  | ordered c =>
    refine ⟨_, _, rfl, ?_⟩
    rw [Comparison.run, if_pos (ha.trans hb.symm), hplaced.compare?_eq, Option.any_some]
    rfl

theorem function_on (test : PairTest) :
    (test.function t).on [a, b] = .ok (.ofBool (test.holds (compare a.place b.place))) := by
  obtain ⟨id, run, hfunction, hrun⟩ := function_eq_binary ht hd ha hb test
  rw [hfunction, FirstOrder.on_kernel rfl]
  exact congrArg (Except.mapError _) hrun

/-- It is the same if the values come from trees. -/
theorem function_decides (test : PairTest) {ctx : Option Context} {x y : Expr}
    (hx : x.Gives ctx (.value t) (.single a)) (hy : y.Gives ctx (.value t) (.single b)) :
    Expr.Decides ctx (.firstOrder (test.function t)) [x, y]
      (test.holds (compare a.place b.place)) := by
  have hmem := function_mem_firstOrder ht test
  obtain ⟨id, run, hfunction, hrun⟩ := function_eq_binary ht hd ha hb test
  rw [hfunction] at hmem ⊢
  exact Expr.decides_kernel hmem rfl rfl hx hy hrun

theorem passes_iff (test : PairTest) :
    test.Passes t a b ↔ test.holds (compare a.place b.place) = true := by
  rw [Passes, function_on ht hd ha hb]
  simp [Value.ofBool]

end Answers

/-- The five functions for a type, but for doubles, speak of one total order: just one of less, equal
and greater is true, the other two comparisons are their negations, less is transitive, and equal
values stand for each other. Every call answers. -/
theorem one_total_order (ht : t ∈ orderedTypes) (hd : t ≠ .double) (ha : a.type = t)
    (hb : b.type = t) (hc : c.type = t) :
    (∀ test : PairTest, ∃ answer, (test.function t).on [a, b] = .ok (.ofBool answer) ∧
      ∀ (ctx : Option Context) (x y : Expr), x.Gives ctx (.value t) (.single a) →
        y.Gives ctx (.value t) (.single b) →
          Expr.Decides ctx (.firstOrder (test.function t)) [x, y] answer) ∧
    (∃! test, test ∈ exclusive ∧ Passes test t a b) ∧
    ((ordered .lessOrEqual).Passes t a b ↔ ¬ (ordered .greater).Passes t a b) ∧
    ((ordered .greaterOrEqual).Passes t a b ↔ ¬ (ordered .less).Passes t a b) ∧
    ((ordered .less).function t).on [a, b] = ((ordered .greater).function t).on [b, a] ∧
    ((ordered .less).Passes t a b → (ordered .less).Passes t b c → (ordered .less).Passes t a c) ∧
    (equal.Passes t a b → ∀ test : PairTest,
      (test.function t).on [a, c] = (test.function t).on [b, c] ∧
        (test.function t).on [c, a] = (test.function t).on [c, b]) := by
  refine ⟨?_, ?_, ?_, ?_, ?_, ?_, ?_⟩
  · intro test
    exact ⟨_, function_on ht hd ha hb test, fun _ _ _ => function_decides ht hd ha hb test⟩
  · simp only [passes_iff ht hd ha hb]
    exact existsUnique_holds _
  · rw [passes_iff ht hd ha hb, passes_iff ht hd ha hb]
    cases compare a.place b.place <;> simp [holds, Comparison.holds]
  · rw [passes_iff ht hd ha hb, passes_iff ht hd ha hb]
    cases compare a.place b.place <;> simp [holds, Comparison.holds]
  · rw [function_on ht hd ha hb, function_on ht hd hb ha, holds, holds, Comparison.holds,
      Comparison.holds, Std.OrientedCmp.isGT_eq_isLT]
  · rw [passes_iff ht hd ha hb, passes_iff ht hd hb hc, passes_iff ht hd ha hc]
    simp only [holds, Comparison.holds, Ordering.isLT_iff_eq_lt]
    exact Std.TransCmp.lt_trans
  · rw [passes_iff ht hd ha hb]
    intro hequal test
    have hplace : a.place = b.place :=
      Std.LawfulEqOrd.eq_of_compare (Ordering.isEq_iff_eq_eq.1 hequal)
    rw [function_on ht hd ha hc, function_on ht hd hb hc, function_on ht hd hc ha,
      function_on ht hd hc hb, hplace]
    exact ⟨rfl, rfl⟩

/-- A leap second on two clocks, and the second after it: what is less than the one is less than the
other. -/
theorem one_total_order_leap : ∃ a b c : AttributeValue,
    AttributeValue.read .dateTime "2016-12-31T23:59:60Z" = .ok a ∧
    AttributeValue.read .dateTime "2017-01-01T00:59:60+01:00" = .ok b ∧
    AttributeValue.read .dateTime "2017-01-01T00:00:00Z" = .ok c ∧ a ≠ b ∧
    equal.Passes .dateTime a b ∧ (ordered .less).Passes .dateTime a c ∧
    (ordered .less).Passes .dateTime b c := by
  have ht : AttributeType.dateTime ∈ orderedTypes := by decide
  have hd : AttributeType.dateTime ≠ .double := by decide
  let a : AttributeValue := .dateTime
    ⟨⟨2016, 12, 31, by decide⟩, ⟨23, 59, 59, 1000000000, by decide⟩, 0⟩
  let b : AttributeValue := .dateTime
    ⟨⟨2017, 1, 1, by decide⟩, ⟨0, 59, 59, 1000000000, by decide⟩, 60⟩
  let c : AttributeValue := .dateTime ⟨⟨2017, 1, 1, by decide⟩, ⟨0, 0, 0, 0, by decide⟩, 0⟩
  have hequal : equal.Passes .dateTime a b := (passes_iff ht hd rfl rfl equal).2 (by decide)
  have hless : (ordered .less).Passes .dateTime a c :=
    (passes_iff ht hd rfl rfl (ordered .less)).2 (by decide)
  obtain ⟨-, -, -, -, -, -, hsame⟩ := one_total_order ht hd (a := a) (b := b) (c := c) rfl rfl rfl
  have hless' : (ordered .less).Passes .dateTime b c :=
    (hsame hequal (ordered .less)).1.symm.trans hless
  exact ⟨a, b, c, by rfl, by rfl, by rfl, by decide, hequal, hless, hless'⟩

end PairTest

end Xacml
