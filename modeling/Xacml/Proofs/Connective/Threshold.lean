/-
What the connectives answer. `or` asks for one true argument, `and` for all of them, and `n-of` for
as many as its first argument says. Each is true, false or the first failure by one rule, evaluates
the shortest run of arguments that forces an answer, and makes no difference between operands and
values that are only given when the call is evaluated.
-/
import Xacml.Library.Standard
import Xacml.Proofs.Connective.Stops

namespace Xacml

open Eval Tally

/-! ## The two junctions as thresholds -/

section Junctions

variable {failures : Nat} {failure : Option Failure} {xs : List (Eval Bool)}

theorem orElse_isSome {e : Failure} (failure : Option Failure) (failures : Nat) :
    (failure <|> some e).isSome ↔ 0 < failures + 1 := by
  cases failure <;> simp

/-- With nothing left and no failure so far, the loops end alike. -/
theorem eq_nil_of_no_failure (h : failure.isSome ↔ 0 < failures) (hz : failures + xs.length = 0) :
    failure = none ∧ xs = [] := by
  refine ⟨Option.not_isSome_iff_eq_none.1 fun hs => ?_, List.length_eq_zero_iff.1 (by omega)⟩
  have := h.1 hs
  omega

/-- A disjunction asks for one. -/
theorem untilDecisive_true (failures : Nat) (h : failure.isSome ↔ 0 < failures) :
    untilDecisive true failure xs = untilReached 1 failures failure xs := by
  induction xs generalizing failures failure with
  | nil => cases failure <;> rfl
  | cons x rest ih =>
    rw [untilDecisive_cons, untilReached_cons]
    congr 1
    funext outcome
    rcases outcome with e | (_ | _)
    · dsimp only
      rw [if_neg (by omega), if_neg (by omega)]
      exact ih _ (orElse_isSome failure failures)
    · dsimp only
      rw [if_neg Bool.false_ne_true, if_neg (by omega)]
      split
      · obtain ⟨rfl, rfl⟩ := eq_nil_of_no_failure h (by omega : failures + rest.length = 0)
        rfl
      · exact ih _ h
    · rfl

/-- A conjunction asks for all that are left and for those that have failed. -/
theorem untilDecisive_false (failures : Nat) (h : failure.isSome ↔ 0 < failures)
    (hpos : 0 < failures + xs.length) :
    untilDecisive false failure xs = untilReached (failures + xs.length) failures failure xs := by
  induction xs generalizing failures failure with
  | nil =>
    obtain ⟨e, rfl⟩ := Option.isSome_iff_exists.1 (h.2 hpos)
    rfl
  | cons x rest ih =>
    rw [untilDecisive_cons, untilReached_cons, List.length_cons]
    congr 1
    funext outcome
    rcases outcome with e | (_ | _)
    · dsimp only
      rw [if_neg (by omega), if_neg (by omega), ← Nat.add_assoc, Nat.add_right_comm]
      exact ih _ (orElse_isSome failure failures) (by omega)
    · dsimp only
      rw [if_pos rfl, if_neg (by omega), if_pos (by omega)]
    · -- one more is true, so one less is asked for
      dsimp only
      rw [if_neg (by decide), ← Nat.add_assoc, Nat.add_sub_cancel]
      split
      · rename_i hz
        obtain ⟨rfl, rfl⟩ := eq_nil_of_no_failure h hz
        rfl
      · rw [if_neg (by omega)]
        exact ih _ h (by omega)

end Junctions

/-! ## The arguments that are read -/

theorem map_booleanAt (id : String) (d : Nat) {operands : List Operand}
    {given : List AttributeValue} {args : List (Eval Value)}
    (h : ∀ i x, args[i]? = some x → (callArguments operands given)[i + d]? = some x) :
    (List.range args.length).map (fun i => booleanAt id operands given (i + d)) =
      asBooleans id d args := by
  induction args generalizing d with
  | nil => rfl
  | cons x rest ih =>
    have hhead : booleanAt id operands given (0 + d) = asBoolean id d x := by
      rw [booleanAt, valueAt_eq id (h 0 x rfl), Nat.zero_add]
      rfl
    have htail := ih (d + 1) fun i y hy => by
      rw [← Nat.add_assoc, Nat.add_right_comm]
      exact h (i + 1) y hy
    rw [List.length_cons, List.range_succ_eq_map, List.map_cons, hhead, List.map_map, asBooleans,
      ← htail]
    congr 2
    funext i
    rw [Function.comp_apply, Nat.succ_eq_add_one, Nat.add_assoc, Nat.add_comm 1]

/-! ## Calls -/

/-- What it is for a call to ask whether at least `k` of its boolean arguments are true, of which
the first stands at position `first`. -/
structure Threshold (id : String) (first k : Nat) (args : List (Eval Value)) (c : Pattern.Cache)
    (o : Outcome Value) : Prop where
  isTrue : o.result = .ok (.ofBool true) ↔ k ≤ trues (truths args c)
  isFalse : o.result = .ok (.ofBool false) ↔ trues (truths args c) + failed (truths args c) < k
  /-- Otherwise the first failing argument fails the call. -/
  failure : trues (truths args c) < k → k ≤ trues (truths args c) + failed (truths args c) →
    ∃ i e, (answers args c)[i]? = some (.error e) ∧
      (∀ j < i, ∃ v, (answers args c)[j]? = some (.ok v)) ∧
      o.result = .error (.inArgument id (first + i) e)
  /-- The arguments that are evaluated are the first `m`, the least number that forces an answer, or
  all if none does. -/
  lazy : ∃ m ≤ args.length, (∀ j < m, ¬ Forces k args.length ((truths args c).take j)) ∧
    (Forces k args.length ((truths args c).take m) ∨ m = args.length) ∧
    o.cache = cacheAfter (args.take m) c ∧ o.events = eventsOf (args.take m) c

theorem error_of_truths {args : List (Eval Value)} {c : Pattern.Cache} {i : Nat} {e : Failure}
    (h : (truths args c)[i]? = some (.error e)) : (answers args c)[i]? = some (.error e) := by
  rw [truths, List.getElem?_map, Option.map_eq_some_iff] at h
  obtain ⟨r, hr, h⟩ := h
  cases r with
  | error e' => cases h; exact hr
  | ok v => cases h

theorem ok_of_truths {args : List (Eval Value)} {c : Pattern.Cache} {i : Nat} {b : Bool}
    (h : (truths args c)[i]? = some (.ok b)) : ∃ v, (answers args c)[i]? = some (.ok v) := by
  rw [truths, List.getElem?_map, Option.map_eq_some_iff] at h
  obtain ⟨r, hr, h⟩ := h
  cases r with
  | error e => cases h
  | ok v => exact ⟨v, hr⟩

theorem Stops.threshold {id : String} {first k : Nat} {args : List (Eval Value)}
    {c : Pattern.Cache} {o : Outcome Bool} (h : Stops id first k [] args c o) :
    Threshold id first k args c ⟨o.result.map .ofBool, o.cache, o.events⟩ := by
  obtain ⟨hdecides, m, hm, hbefore, hat, hcache, hevents⟩ := h
  simp only [List.nil_append, List.length_nil, Nat.zero_add] at hdecides hbefore hat
  have hmap : ∀ b, o.result.map Value.ofBool = .ok (.ofBool b) ↔ o.result = .ok b := by
    intro b
    rcases o.result with e | (_ | _) <;> cases b <;> simp [Except.map, Value.ofBool]
  refine ⟨(hmap true).trans hdecides.eq_true_iff, (hmap false).trans hdecides.eq_false_iff, ?_,
    m, hm, hbefore, hat, hcache, hevents⟩
  intro hmore hleast
  obtain ⟨f, hf, hr⟩ : ∃ f, firstFailure? id first (truths args c) = some f ∧
      o.result = .error f := by
    generalize o.result = r at hdecides
    cases hdecides with
    | enough h => omega
    | tooFew h => omega
    | undecided _ _ hf => exact ⟨_, hf, rfl⟩
  obtain ⟨i, e, hi, hok, rfl⟩ := exists_of_firstFailure? hf
  refine ⟨i, e, error_of_truths hi, fun j hj => ?_, by rw [hr]; rfl⟩
  obtain ⟨b, hb⟩ := hok j hj
  exact ok_of_truths hb

section Calls

variable {f : FirstOrderFunction} {operands : List Operand} {types : List AttributeType}
  {given : List AttributeValue}

/-- A call of a connective runs it on as many arguments as the call was bound with. -/
theorem run_connective {k : Connective} (hbody : f.body = .connective k)
    (hlen : types.length = given.length) (c : Pattern.Cache) :
    f.run operands types given c =
      let o := runConnective k f.id operands (callArguments operands given).length given c
      ⟨o.result.map .ofBool, o.cache, o.events⟩ := by
  unfold FirstOrder.run
  rw [hbody, length_callArguments, hlen]
  exact map_apply _ Value.ofBool c

theorem booleans_eq (id : String) :
    (List.range (callArguments operands given).length).map (booleanAt id operands given) =
      asBooleans id 0 (callArguments operands given) :=
  map_booleanAt id 0 fun _ _ h => h

theorem or_threshold (hbody : f.body = .connective .or) (hlen : types.length = given.length)
    (hx : ∀ x ∈ callArguments operands given, x.IsBoolean) (c : Pattern.Cache) :
    Threshold f.id 0 1 (callArguments operands given) c (f.run operands types given c) := by
  rw [run_connective hbody hlen]
  refine Stops.threshold ?_
  rw [runConnective, booleans_eq, untilDecisive_true 0 (by simp)]
  generalize callArguments operands given = args at hx
  cases args with
  | nil => exact .of_forcesFalse ((forcesFalse_iff (Nat.zero_le _)).2 (by simp))
  | cons x rest =>
    refine untilReached_stops [] hx ((not_forces_iff (Nat.zero_le _)).2 ?_) c
    simp

theorem and_threshold (hbody : f.body = .connective .and) (hlen : types.length = given.length)
    (hx : ∀ x ∈ callArguments operands given, x.IsBoolean) (c : Pattern.Cache) :
    Threshold f.id 0 (callArguments operands given).length (callArguments operands given) c
      (f.run operands types given c) := by
  rw [run_connective hbody hlen]
  refine Stops.threshold ?_
  rw [runConnective, booleans_eq]
  generalize callArguments operands given = args at hx
  cases args with
  | nil => exact .of_forcesTrue ((forcesTrue_iff (Nat.zero_le _)).2 (by simp))
  | cons x rest =>
    rw [untilDecisive_false 0 (by simp) (by simp [asBooleans]), length_asBooleans,
      Nat.zero_add]
    refine untilReached_stops [] hx ((not_forces_iff (Nat.zero_le _)).2 ?_) c
    simp

section Count

variable {count : Eval Value} {booleans : List (Eval Value)}

theorem count_of_arguments (id : String) (h : callArguments operands given = count :: booleans) :
    valueAt id operands given 0 = count.single.mapFailure (.inArgument id 0) :=
  valueAt_eq id (by rw [h]; rfl)

/-- The arguments that are counted come after the count. -/
theorem counted_eq (id : String) (h : callArguments operands given = count :: booleans) :
    ((List.range booleans.length).map fun i => booleanAt id operands given (i + 1)) =
      asBooleans id 1 booleans :=
  map_booleanAt id 1 fun i x hx => by rw [h]; exact hx

theorem runNOf_of_error {id : String} {n : Nat}
    (h : callArguments operands given = count :: booleans) {c : Pattern.Cache} {e : Failure}
    (he : (count c).result = .error e) :
    runNOf id operands n given c =
      ⟨.error (.inArgument id 0 e), (count c).cache, (count c).events⟩ := by
  have hs : (count.single.mapFailure (.inArgument id 0)) c =
      ⟨.error (.inArgument id 0 e), (count c).cache, (count c).events⟩ := by
    rw [mapFailure, single, bind_of_error he]
    rfl
  rw [runNOf, count_of_arguments id h, bind_of_error (congrArg Outcome.result hs), hs]

theorem runNOf_of_integer {id : String} (h : callArguments operands given = count :: booleans)
    {c : Pattern.Cache} {n : Int64} (hn : (count c).result = .ok (.single (.integer n))) :
    runNOf id operands (callArguments operands given).length given c =
      let o := (if n.toInt < 0 then Eval.fail (.of (.negativeCount id n.toInt))
        else if booleans.length < n.toInt.toNat then
          Eval.fail (.of (.tooFewArguments id n.toInt.toNat booleans.length))
        else if n.toInt = 0 then Eval.ok true
        else untilReached n.toInt.toNat 0 none (asBooleans id 1 booleans)) (count c).cache
      ⟨o.result, o.cache, (count c).events ++ o.events⟩ := by
  have hs : (count.single.mapFailure (.inArgument id 0)) c =
      ⟨.ok (.integer n), (count c).cache, (count c).events⟩ := by
    rw [mapFailure, single, bind_of_ok hn]
    simp [ok, done, mapError_ok]
  rw [runNOf, count_of_arguments id h, bind_of_ok (congrArg Outcome.result hs), hs, h,
    List.length_cons, Nat.add_sub_cancel]
  dsimp only
  rw [counted_eq id h]

/-- Within its bounds, a count makes a threshold for the arguments after it. -/
theorem count_stops {id : String} (hx : ∀ x ∈ booleans, x.IsBoolean) {n : Nat} (hpos : n ≠ 0)
    (hle : n ≤ booleans.length) (c : Pattern.Cache) :
    Stops id 1 n [] booleans c (untilReached n 0 none (asBooleans id 1 booleans) c) := by
  refine untilReached_stops [] hx ((not_forces_iff (Nat.zero_le _)).2 ⟨?_, ?_⟩) c
  · exact Nat.pos_of_ne_zero hpos
  · simpa using hle

end Count

theorem nOf_threshold (hbody : f.body = .connective .nOf) (hlen : types.length = given.length)
    (c : Pattern.Cache) {count : Eval Value} {booleans : List (Eval Value)}
    (h : callArguments operands given = count :: booleans) (hx : ∀ x ∈ booleans, x.IsBoolean) :
    (∀ e, (count c).result = .error e → f.run operands types given c =
      ⟨.error (.inArgument f.id 0 e), (count c).cache, (count c).events⟩) ∧
    ∀ n, (count c).result = .ok (.single (.integer n)) →
      (n.toInt < 0 ∨ booleans.length < n.toInt → ∃ p : Problem, p.status = .processingError ∧
        f.run operands types given c = ⟨.error (.of p), (count c).cache, (count c).events⟩) ∧
      (n.toInt = 0 → f.run operands types given c =
        ⟨.ok (.ofBool true), (count c).cache, (count c).events⟩) ∧
      (0 ≤ n.toInt → n.toInt ≤ booleans.length → ∃ o,
        Threshold f.id 1 n.toInt.toNat booleans (count c).cache o ∧
        f.run operands types given c = ⟨o.result, o.cache, (count c).events ++ o.events⟩) := by
  refine ⟨fun e he => ?_, fun n hn => ?_⟩
  · rw [run_connective hbody hlen, runConnective, runNOf_of_error h he]
    rfl
  · rw [run_connective hbody hlen, runConnective, runNOf_of_integer h hn]
    refine ⟨fun hout => ?_, fun hzero => ?_, fun hpos hle => ?_⟩
    · by_cases hneg : n.toInt < 0
      · rw [if_pos hneg]
        exact ⟨.negativeCount f.id n.toInt, rfl, by simp [Eval.fail, done, Except.map]⟩
      · rw [if_neg hneg, if_pos (by omega)]
        exact ⟨.tooFewArguments f.id n.toInt.toNat booleans.length, rfl,
          by simp [Eval.fail, done, Except.map]⟩
    · rw [if_neg (by omega), if_neg (by omega), if_pos hzero]
      simp [ok, done, Except.map]
    · rw [if_neg (by omega), if_neg (by omega)]
      by_cases hzero : n.toInt = 0
      · rw [if_pos hzero]
        refine ⟨_, Stops.threshold (.of_forcesTrue ((forcesTrue_iff (Nat.zero_le _)).2 ?_)), rfl⟩
        rw [hzero]
        exact Nat.zero_le _
      · rw [if_neg hzero]
        exact ⟨_, (count_stops hx (by omega) (by omega) _).threshold, rfl⟩

/-- The threshold of every call of a connective: one for `or`, all for `and`, and for `n-of` the
count that is its first argument. A count that fails, or that no number of arguments can reach,
fails the call before any boolean is evaluated. -/
theorem connective_threshold (hlen : types.length = given.length) (c : Pattern.Cache) :
    (f.body = .connective .or → (∀ x ∈ callArguments operands given, x.IsBoolean) →
      Threshold f.id 0 1 (callArguments operands given) c (f.run operands types given c)) ∧
    (f.body = .connective .and → (∀ x ∈ callArguments operands given, x.IsBoolean) →
      Threshold f.id 0 (callArguments operands given).length (callArguments operands given) c
        (f.run operands types given c)) ∧
    (f.body = .connective .nOf → ∀ count booleans,
      callArguments operands given = count :: booleans → (∀ x ∈ booleans, x.IsBoolean) →
      (∀ e, (count c).result = .error e → f.run operands types given c =
        ⟨.error (.inArgument f.id 0 e), (count c).cache, (count c).events⟩) ∧
      ∀ n, (count c).result = .ok (.single (.integer n)) →
        (n.toInt < 0 ∨ booleans.length < n.toInt → ∃ p : Problem, p.status = .processingError ∧
          f.run operands types given c = ⟨.error (.of p), (count c).cache, (count c).events⟩) ∧
        (n.toInt = 0 → f.run operands types given c =
          ⟨.ok (.ofBool true), (count c).cache, (count c).events⟩) ∧
        (0 ≤ n.toInt → n.toInt ≤ booleans.length → ∃ o,
          Threshold f.id 1 n.toInt.toNat booleans (count c).cache o ∧
          f.run operands types given c = ⟨o.result, o.cache, (count c).events ++ o.events⟩)) :=
  ⟨fun hbody hx => or_threshold hbody hlen hx c, fun hbody hx => and_threshold hbody hlen hx c,
    fun hbody _ _ h hx => nOf_threshold hbody hlen c h hx⟩

end Calls

/-- One of two booleans, of which the first fails and the second is only given, and as many as a
count of one says, which is only given as well. -/
theorem threshold_given :
    Threshold (Library.connective .or "or" [.boolean]).id 0 1
      (callArguments [⟨⟨.boolean, none⟩, .fail (.of (.noContent "x"))⟩] [.boolean true]) (.empty 0)
      ((Library.connective .or "or" [.boolean]).run
        [⟨⟨.boolean, none⟩, .fail (.of (.noContent "x"))⟩] [.boolean] [.boolean true]
        (.empty 0)) ∧
    ∃ o, Threshold (Library.connective .nOf "n-of" [.integer, .boolean]).id 1 1
      [.ok (.ofBool true)] (.empty 0) o ∧
      (Library.connective .nOf "n-of" [.integer, .boolean]).run [] [.integer, .boolean]
        [.integer 1, .boolean true] (.empty 0) = ⟨o.result, o.cache, o.events⟩ := by
  constructor
  · refine (connective_threshold rfl (.empty 0)).1 rfl ?_
    simp only [callArguments, List.map_cons, List.map_nil, List.cons_append, List.nil_append,
      List.forall_mem_cons]
    exact ⟨by rintro c v ⟨⟩, by rintro c _ ⟨⟩; exact ⟨true, rfl⟩, List.forall_mem_nil _⟩
  · refine (((connective_threshold rfl (.empty 0)).2.2 rfl (.ok (.single (.integer 1)))
      [.ok (.ofBool true)] rfl ?_).2 1 rfl).2.2 (by decide) (by decide)
    rw [List.forall_mem_singleton]
    rintro c _ ⟨⟩
    exact ⟨true, rfl⟩

end Xacml
