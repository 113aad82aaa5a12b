/-
The loop of the connectives. It looks at its arguments one after the other, and stops as soon as
those it has looked at force an answer. The invariant is in terms of what has been seen so far: how
many more must be true, how many have failed, and the first failure are read off that list.
-/
import Xacml.Proofs.Connective.Tally
import Xacml.Proofs.Evaluation.Sequence

namespace Xacml

open Eval Tally

/-! ## Boolean arguments -/

def Value.isTrue : Value → Bool
  | .single (.boolean b) => b
  | _ => false

namespace Eval

/-- An evaluation that answers with a boolean, or fails. -/
def IsBoolean (x : Eval Value) : Prop := ∀ c v, (x c).result = .ok v → ∃ b, v = .ofBool b

/-- An argument as the connectives read it. -/
def asBoolean (id : String) (index : Nat) (x : Eval Value) : Eval Bool := do
  match ← x.single.mapFailure (.inArgument id index) with
  | .boolean b => ok b
  | v => fail (.inArgument id index (.of (.cast .boolean (.value v.type))))

/-- Arguments as the connectives read them, from position `index` on. -/
def asBooleans (id : String) : Nat → List (Eval Value) → List (Eval Bool)
  | _, [] => []
  | index, x :: rest => asBoolean id index x :: asBooleans id (index + 1) rest

/-- The booleans that arguments answer with, carried out one after the other. -/
def truths (args : List (Eval Value)) (c : Pattern.Cache) : List Truth :=
  (answers args c).map (·.map Value.isTrue)

@[simp] theorem length_truths (args : List (Eval Value)) (c : Pattern.Cache) :
    (truths args c).length = args.length := by
  rw [truths, List.length_map, length_answers]

@[simp] theorem length_asBooleans (id : String) (index : Nat) (args : List (Eval Value)) :
    (asBooleans id index args).length = args.length := by
  induction args generalizing index with
  | nil => rfl
  | cons x rest ih => rw [asBooleans, List.length_cons, ih, List.length_cons]

theorem IsBoolean.asBoolean_apply {x : Eval Value} (hx : x.IsBoolean) (id : String) (index : Nat)
    (c : Pattern.Cache) :
    asBoolean id index x c =
      ⟨((x c).result.map Value.isTrue).mapError (.inArgument id index), (x c).cache,
        (x c).events⟩ := by
  cases hr : (x c).result with
  | error e =>
    have hs : (x.single.mapFailure (.inArgument id index)) c =
        ⟨.error (.inArgument id index e), (x c).cache, (x c).events⟩ := by
      rw [mapFailure, single, bind_of_error hr]
      rfl
    rw [asBoolean, bind_of_error (congrArg Outcome.result hs), hs]
    rfl
  | ok v =>
    obtain ⟨b, rfl⟩ := hx c v hr
    have hs : (x.single.mapFailure (.inArgument id index)) c =
        ⟨.ok (.boolean b), (x c).cache, (x c).events⟩ := by
      rw [mapFailure, single, bind_of_ok hr]
      simp [Value.ofBool, ok, done, mapError_ok]
    rw [asBoolean, bind_of_ok (congrArg Outcome.result hs), hs]
    simp [ok, done, Value.isTrue, Value.ofBool, Except.map, mapError_ok]

end Eval

/-! ## Where the loop stops -/

/-- The outcome `o` of looking at arguments, after `prior` has been seen: it decides whether at
least `k` are true, and no more arguments have been evaluated than it takes to force an answer. -/
structure Stops (id : String) (index k : Nat) (prior : List Truth) (args : List (Eval Value))
    (c : Pattern.Cache) (o : Outcome Bool) : Prop where
  decides : Decides id index k (prior ++ truths args c) o.result
  lazy : ∃ m ≤ args.length,
    (∀ j < m, ¬ Forces k (prior.length + args.length) (prior ++ (truths args c).take j)) ∧
    (Forces k (prior.length + args.length) (prior ++ (truths args c).take m) ∨ m = args.length) ∧
    o.cache = cacheAfter (args.take m) c ∧ o.events = eventsOf (args.take m) c

namespace Stops

variable {id : String} {index k : Nat} {prior : List Truth} {args rest : List (Eval Value)}
  {x : Eval Value} {c : Pattern.Cache} {o : Outcome Bool}

theorem of_forcesTrue (h : ForcesTrue k (prior.length + args.length) prior) :
    Stops id index k prior args c ⟨.ok true, c, []⟩ := by
  have hn : (prior ++ truths args c).length = prior.length + args.length := by simp
  refine ⟨.enough (h _ hn), 0, Nat.zero_le _, fun j hj => absurd hj (Nat.not_lt_zero j), .inl ?_,
    rfl, rfl⟩
  rw [List.take_zero, List.append_nil]
  exact .inl h

theorem of_forcesFalse (h : ForcesFalse k (prior.length + args.length) prior) :
    Stops id index k prior args c ⟨.ok false, c, []⟩ := by
  have hn : (prior ++ truths args c).length = prior.length + args.length := by simp
  refine ⟨.tooFew (h _ hn), 0, Nat.zero_le _, fun j hj => absurd hj (Nat.not_lt_zero j), .inl ?_,
    rfl, rfl⟩
  rw [List.take_zero, List.append_nil]
  exact .inr h

/-- One more argument is evaluated because what has been seen forces nothing. -/
theorem cons (hopen : ¬ Forces k (prior.length + (x :: rest).length) prior)
    (h : Stops id index k (prior ++ [(x c).result.map Value.isTrue]) rest (x c).cache o) :
    Stops id index k prior (x :: rest) c ⟨o.result, o.cache, (x c).events ++ o.events⟩ := by
  obtain ⟨hdecides, m, hm, hbefore, hat, hcache, hevents⟩ := h
  have hlength : (prior ++ [(x c).result.map Value.isTrue]).length + rest.length =
      prior.length + (x :: rest).length := by simp; omega
  rw [hlength] at hbefore hat
  simp only [List.append_assoc, List.singleton_append] at hdecides hbefore hat
  refine ⟨hdecides, m + 1, Nat.succ_le_succ hm, fun j hj => ?_, hat.imp_right (congrArg (· + 1)), ?_, ?_⟩
  · cases j with
    | zero => rwa [List.take_zero, List.append_nil]
    | succ j => exact hbefore j (by omega)
  · rw [hcache]; rfl
  · rw [hevents]; rfl

end Stops

/-! ## The loop -/

theorem not_forces_iff {k n : Nat} {start : List Truth} (h : start.length ≤ n) :
    ¬ Forces k n start ↔
      trues start < k ∧ k ≤ trues start + failed start + (n - start.length) := by
  rw [Forces, forcesTrue_iff h, forcesFalse_iff h]
  omega

/-- The loop at a place where it may find that what it has seen decides. -/
def goOn (id : String) (index k : Nat) (prior : List Truth) (args : List (Eval Value)) :
    Eval Bool :=
  if k - trues prior = 0 then ok true
  else if failed prior + args.length < k - trues prior then ok false
  else untilReached (k - trues prior) (failed prior) (firstFailure? id index prior)
    (asBooleans id (index + prior.length) args)

section Loop

variable {id : String} {index k : Nat} {prior : List Truth} {args rest : List (Eval Value)}

/-- A round of the loop looks at one argument and takes note of its answer. -/
theorem untilReached_round {x : Eval Value} (hx : x.IsBoolean) (c : Pattern.Cache) :
    untilReached (k - trues prior) (failed prior) (firstFailure? id index prior)
        (asBooleans id (index + prior.length) (x :: rest)) c =
      let o := goOn id index k (prior ++ [(x c).result.map Value.isTrue]) rest (x c).cache
      ⟨o.result, o.cache, (x c).events ++ o.events⟩ := by
  rw [asBooleans, untilReached_cons, attempt_bind, hx.asBoolean_apply]
  generalize (x c).result.map Value.isTrue = a
  rcases a with e | (_ | _) <;>
    simp [goOn, mapError_ok, mapError_error, firstFailure?_concat, firstFailure?, Nat.sub_sub, Nat.add_assoc]

theorem untilReached_stops (prior : List Truth) (hx : ∀ x ∈ args, x.IsBoolean)
    (hopen : ¬ Forces k (prior.length + args.length) prior) (c : Pattern.Cache) :
    Stops id index k prior args c
      (untilReached (k - trues prior) (failed prior) (firstFailure? id index prior)
        (asBooleans id (index + prior.length) args) c) := by
  induction args generalizing prior c with
  | nil =>
    -- nothing is forced and nothing is left, so some argument has failed
    obtain ⟨hmore, hleast⟩ := (not_forces_iff (Nat.le_add_right _ _)).1 hopen
    have hfailed : 0 < failed prior := by simp at hleast; omega
    obtain ⟨e, he⟩ := Option.isSome_iff_exists.1 (firstFailure?_isSome.2 hfailed)
    rw [he, asBooleans]
    refine ⟨?_, 0, Nat.zero_le _, fun j hj => absurd hj (Nat.not_lt_zero j), .inr rfl, rfl, rfl⟩
    rw [truths, answers, List.map_nil, List.append_nil]
    simp at hleast
    exact .undecided hmore hleast he
  | cons x rest ih =>
    obtain ⟨hxb, hrest⟩ := List.forall_mem_cons.1 hx
    rw [untilReached_round hxb]
    refine Stops.cons hopen ?_
    generalize prior ++ [(x c).result.map Value.isTrue] = seen
    have hle : seen.length ≤ seen.length + rest.length := Nat.le_add_right _ _
    -- the two exits of the loop are the two ways to force an answer
    unfold goOn
    split
    · exact .of_forcesTrue ((forcesTrue_iff hle).2 (by omega))
    split
    · exact .of_forcesFalse ((forcesFalse_iff hle).2 (by omega))
    · exact ih _ hrest ((not_forces_iff hle).2 (by omega)) _

end Loop

end Xacml
