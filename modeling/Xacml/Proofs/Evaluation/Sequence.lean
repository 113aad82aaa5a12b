/-
Evaluations carried out one after the other, each whatever the ones before it answered: what they
answer, the store of compiled patterns that they leave, and what happens meanwhile.
-/
import Xacml.Evaluation.Call
import Xacml.Library.Kernel

namespace Xacml

namespace Eval

variable {α : Type}

def answers : List (Eval α) → Pattern.Cache → List (Except Failure α)
  | [], _ => []
  | x :: rest, c => (x c).result :: answers rest (x c).cache

def cacheAfter : List (Eval α) → Pattern.Cache → Pattern.Cache
  | [], c => c
  | x :: rest, c => cacheAfter rest (x c).cache

def eventsOf : List (Eval α) → Pattern.Cache → List Event
  | [], _ => []
  | x :: rest, c => (x c).events ++ eventsOf rest (x c).cache

@[simp] theorem length_answers (xs : List (Eval α)) (c : Pattern.Cache) :
    (answers xs c).length = xs.length := by
  induction xs generalizing c with
  | nil => rfl
  | cons x rest ih => rw [answers, List.length_cons, ih, List.length_cons]

/-- An evaluation that ends in an answer hands it on. -/
theorem bind_of_ok {β : Type} {x : Eval α} {f : α → Eval β} {c : Pattern.Cache} {a : α}
    (h : (x c).result = .ok a) :
    (x >>= f) c = ⟨(f a (x c).cache).result, (f a (x c).cache).cache,
      (x c).events ++ (f a (x c).cache).events⟩ := by
  show andThen x f c = _
  rw [andThen]
  simp only [h]

/-- A failure ends an evaluation. -/
theorem bind_of_error {β : Type} {x : Eval α} {f : α → Eval β} {c : Pattern.Cache} {e : Failure}
    (h : (x c).result = .error e) :
    (x >>= f) c = ⟨.error e, (x c).cache, (x c).events⟩ := by
  show andThen x f c = _
  rw [andThen]
  simp only [h]

/-- To change the answer changes nothing else. -/
theorem map_apply {β : Type} (x : Eval α) (f : α → β) (c : Pattern.Cache) :
    (x >>= fun a => pure (f a)) c = ⟨(x c).result.map f, (x c).cache, (x c).events⟩ := by
  cases hr : (x c).result with
  | error e => rw [bind_of_error hr]; rfl
  | ok a =>
    rw [bind_of_ok hr]
    exact congrArg (Outcome.mk _ _) (List.append_nil _)

/-- The outcome of an evaluation that follows an answer. -/
theorem attempt_bind {β : Type} {x : Eval α} {f : Except Failure α → Eval β} {c : Pattern.Cache} :
    (x.attempt >>= f) c = ⟨(f (x c).result (x c).cache).result, (f (x c).result (x c).cache).cache,
      (x c).events ++ (f (x c).result (x c).cache).events⟩ := rfl

end Eval

/-! ## Arguments of a call -/

/-- The arguments of a call: its operands, and then the values that are only given when it is
evaluated. -/
def callArguments (operands : List Operand) (given : List AttributeValue) : List (Eval Value) :=
  operands.map (·.eval) ++ given.map fun v => .ok (.single v)

theorem length_callArguments (operands : List Operand) (given : List AttributeValue) :
    (callArguments operands given).length = operands.length + given.length := by
  simp [callArguments]

/-- An argument is evaluated as the operand or the given value at its position. -/
theorem valueAt_eq (function : String) {operands : List Operand} {given : List AttributeValue}
    {index : Nat} {x : Eval Value} (h : (callArguments operands given)[index]? = some x) :
    valueAt function operands given index = x.single.mapFailure (.inArgument function index) := by
  unfold valueAt
  rw [callArguments] at h
  cases hi : operands[index]? with
  | some y =>
    have hlt : index < (operands.map (·.eval)).length := by
      rw [List.length_map]; exact (List.getElem?_eq_some_iff.1 hi).1
    rw [List.getElem?_append_left hlt, List.getElem?_map, hi] at h
    cases h
    rfl
  | none =>
    have hle : (operands.map (·.eval)).length ≤ index := by
      rw [List.length_map]; exact List.getElem?_eq_none_iff.1 hi
    rw [List.getElem?_append_right hle, List.length_map, List.getElem?_map] at h
    cases hg : given[index - operands.length]? with
    | none => rw [hg] at h; cases h
    | some v => rw [hg] at h; cases h; rfl

/-! ## Functions of one value -/

section Unary

open Eval

variable {id : String} {returns : Datatype} {t : AttributeType}
  {run : AttributeValue → Except Failure Value} {x : Operand} {c : Pattern.Cache}

/-- A function of one value is run on the value of its argument. -/
theorem unary_run_of_ok {v : AttributeValue} (h : (x.eval c).result = .ok (.single v)) :
    ((Library.unary id returns t run).run [x] [] [] c).result =
      (run v).mapError (.wrap (.body id)) := by
  have hs : ((x.eval.single.mapFailure (.inArgument id 0)) c).result = .ok v := by
    rw [mapFailure, single, bind_of_ok h]
    rfl
  have hargs : (evaluateArguments (Library.unary id returns t run) 0 [x] c).result =
      .ok ⟨[v], []⟩ := by
    show ((x.eval.single.mapFailure (.inArgument id 0) >>= _) c).result = _
    rw [bind_of_ok hs]
    rfl
  have hchecked : (Eval.done (checkGiven id [] []) c).result = .ok () := rfl
  show ((Eval.done (checkGiven id [] []) >>= _) c).result = _
  rw [bind_of_ok hchecked]
  show ((evaluateArguments (Library.unary id returns t run) 0 [x] >>= _) c).result = _
  rw [bind_of_ok hargs]
  rfl

/-- A failure of the argument is the failure of the call. -/
theorem unary_run_of_error {e : Failure} (h : (x.eval c).result = .error e) :
    ((Library.unary id returns t run).run [x] [] [] c).result = .error (.inArgument id 0 e) := by
  have hs : ((x.eval.single.mapFailure (.inArgument id 0)) c).result =
      .error (.inArgument id 0 e) := by
    rw [mapFailure, single, bind_of_error h]
    rfl
  have hargs : (evaluateArguments (Library.unary id returns t run) 0 [x] c).result =
      .error (.inArgument id 0 e) := by
    show ((x.eval.single.mapFailure (.inArgument id 0) >>= _) c).result = _
    rw [bind_of_error hs]
  have hchecked : (Eval.done (checkGiven id [] []) c).result = .ok () := rfl
  show ((Eval.done (checkGiven id [] []) >>= _) c).result = _
  rw [bind_of_ok hchecked]
  show ((evaluateArguments (Library.unary id returns t run) 0 [x] >>= _) c).result = _
  rw [bind_of_error hargs]

end Unary

end Xacml
