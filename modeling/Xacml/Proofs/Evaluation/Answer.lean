/-
The answer of an evaluation. A steady evaluation ends in the same result from every faithful store
of patterns and leaves a faithful store, so that its answer is that from the empty store, and the
answer of evaluations that are put together is put together from theirs.
-/
import Xacml.Proofs.Footprint.Evaluation

namespace Xacml

variable {α β : Type}

namespace Eval

/-- What an evaluation ends in when no pattern has been stored. -/
def answer (x : Eval α) : Except Failure α := (x (.empty 0)).result

/-- Runs from faithful stores end alike and leave faithful stores. -/
def Steady (x : Eval α) : Prop := Likeness.faithful.Alike x x

section Rules

variable {x : Eval α} {f : α → Eval β}

theorem Steady.result_eq (h : x.Steady) {c : Pattern.Cache} (hc : c.Faithful) :
    (x c).result = x.answer :=
  (h c (.empty 0) ⟨hc, Pattern.Cache.faithful_empty 0⟩).1

theorem Steady.faithful (h : x.Steady) {c : Pattern.Cache} (hc : c.Faithful) :
    (x c).cache.Faithful :=
  (h c c ⟨hc, hc⟩).2.1.1

theorem steady_done (r : Except Failure α) : (done r).Steady := Likeness.alike_done _ r

theorem steady_ok (a : α) : (ok a).Steady := steady_done _

theorem Steady.bind (hx : x.Steady) (hf : ∀ a, (f a).Steady) : (x >>= f).Steady :=
  Likeness.Alike.bind hx hf

/-- Evaluations that are alike answer the same. -/
theorem answer_eq_of_alike {y : Eval α} (h : Likeness.faithful.Alike x y) : x.answer = y.answer :=
  have hempty := Pattern.Cache.faithful_empty 0
  (h _ _ ⟨hempty, hempty⟩).1

theorem answer_bind_ok {a : α} (hx : x.Steady) (hf : (f a).Steady) (h : x.answer = .ok a) :
    (x >>= f).answer = (f a).answer := by
  have hempty := Pattern.Cache.faithful_empty 0
  rw [answer, bind_apply, andThen, hx.result_eq hempty, h]
  exact hf.result_eq (hx.faithful hempty)

theorem answer_map (x : Eval α) (f : α → β) :
    (x >>= fun a => pure (f a)).answer = x.answer.map f := by
  rw [answer, bind_apply, andThen, answer]
  cases (x (.empty 0)).result <;> rfl

theorem answer_mapFailure (x : Eval α) (g : Failure → Failure) :
    (x.mapFailure g).answer = x.answer.mapError g := rfl

end Rules

end Eval

namespace Expr

/-- The answer of a tree in a context. -/
def answer (ctx : Option Context) (e : Expr) : Except Failure Value := (e.eval ctx).answer

theorem steady (ctx : Option Context) (e : Expr) : (e.eval ctx).Steady := eval_alike fun _ _ => rfl

end Expr

end Xacml
