/-
The course of `all-of-any`, `any-of-all` and `all-of-all`. Both bags are evaluated first. Then the pairs
are tested row by row, an element of the first bag with those of the second: each row is left at its
first pair that decides it, and the rows at the first that decides the answer. A failure ends both.
-/
import Xacml.Proofs.Combinator.Combination

namespace Xacml

open Eval

variable {α β : Type}

/-! ## Rows -/

/-- A search for `outer` through rows, each of which is a search for `inner` of its own. -/
def RowsEnd (outer inner : Bool) (test : α → β → Eval Bool) (as : List α) (bs : List β)
    (r : Except Failure Bool) (events : List Event) : Prop :=
  ∃ row : α → Eval Bool,
    (∀ a ∈ as, SearchEnds inner (test a) bs (row a).answer (row a).trace) ∧
    SearchEnds outer row as r events

section Rows

variable {outer inner : Bool} {test : α → β → Eval Bool} {as : List α} {bs : List β}
  {r : Except Failure Bool} {events : List Event}

theorem reports_rows (outer inner : Bool) (htest : ∀ a b, (test a b).Steady) (as : List α)
    (bs : List β) : ∃ r events, RowsEnd outer inner test as bs r events ∧
      (seek outer (fun a => seek inner (test a) bs) as).Reports r events := by
  have hrow (a : α) : SearchEnds inner (test a) bs (seek inner (test a) bs).answer
      (seek inner (test a) bs).trace ∧ (seek inner (test a) bs).Steady := by
    obtain ⟨r, events, hends, hreports⟩ := reports_seek (d := inner) (htest a) bs
    rw [hreports.answer_eq, hreports.trace_eq]
    exact ⟨hends, hreports.steady⟩
  -- each row is one candidate of the search through the rows
  obtain ⟨r, events, hends, hreports⟩ := reports_seek (d := outer) (fun a => (hrow a).2) as
  exact ⟨r, events, ⟨_, fun a _ => (hrow a).1, hends⟩, hreports⟩

/-- Where no test fails, the booleans of the tests tell the answer. -/
theorem RowsEnd.result_eq (h : RowsEnd outer inner test as bs r events) {φ : α → β → Bool}
    (hφ : ∀ a ∈ as, ∀ b ∈ bs, (test a b).answer = .ok (φ a b)) :
    r = .ok (if outer = true then as.any fun a => if inner = true then bs.any (φ a) else bs.all (φ a)
      else as.all fun a => if inner = true then bs.any (φ a) else bs.all (φ a)) := by
  obtain ⟨row, hrow, hends⟩ := h
  exact hends.result_eq fun a ha => (hrow a ha).result_eq (hφ a ha)

end Rows

/-! ## Calls of the function -/

/-- The search of a combinator of two bags. -/
def searchBags (c : Combinator) (test : AttributeValue → AttributeValue → Eval Bool) (a b : Bag) :
    Eval Bool :=
  match c with
  | .allOfAny => all (fun v => any (test v) b.values) a.values
  | .anyOfAll => any (fun v => all (test v) b.values) a.values
  | _ => all (fun v => all (test v) b.values) a.values

/-- The test of two elements, in a call of two bags. -/
def pairTest (id : String) (g : FirstOrderFunction) (xs : List Operand) (v w : AttributeValue) :
    Eval Bool :=
  subTest id g [] (xs.filterMap (·.toStatic.element?)) [v, w]

/-- What a combinator of two bags does with the values of its arguments. -/
def searchValues (c : Combinator) (g : FirstOrderFunction) (xs : List Operand) (v w : Value) :
    Eval Value :=
  match v, w with
  | .bag a, .bag b => do return .ofBool (← searchBags c (pairTest c.id g xs) a b)
  | _, _ => Eval.fail (.of (.expectedBags c.id))

theorem runTwoBags_eq (c : Combinator) (g : FirstOrderFunction) (x y : Operand) :
    runTwoBags c g [x, y] = x.eval.mapFailure (.inArgument c.id 1) >>= fun v =>
      y.eval.mapFailure (.inArgument c.id 2) >>= searchValues c g [x, y] v := by
  unfold runTwoBags
  cases c <;> rfl

/-! ## Quantifiers -/

namespace Combinator

/-- For which boolean a combinator of two bags searches the rows, and for which it searches each
row. -/
def searchesFor? : Combinator → Option (Bool × Bool)
  | .allOfAny => some (false, true)
  | .anyOfAll => some (true, false)
  | .allOfAll => some (false, false)
  | _ => none

/-- What a combinator of two bags says of a relation. -/
def quantifies (c : Combinator) (φ : α → β → Bool) (as : List α) (bs : List β) : Bool :=
  match c with
  | .allOfAny => as.all fun a => bs.any (φ a)
  | .anyOfAll => as.any fun a => bs.all (φ a)
  | _ => as.all fun a => bs.all (φ a)

variable {c : Combinator} {outer inner : Bool}

theorem searchBags_eq_seek (hc : c.searchesFor? = some (outer, inner))
    (test : AttributeValue → AttributeValue → Eval Bool) (a b : Bag) :
    searchBags c test a b =
      seek outer (fun v => seek inner (test v) b.values) a.values := by
  cases c <;> cases hc <;>
    simp only [searchBags, any_eq_seek, all_eq_seek]

theorem quantifies_eq (hc : c.searchesFor? = some (outer, inner)) (φ : α → β → Bool) (as : List α)
    (bs : List β) : c.quantifies φ as bs =
      if outer = true then as.any fun a => if inner = true then bs.any (φ a) else bs.all (φ a)
      else as.all fun a => if inner = true then bs.any (φ a) else bs.all (φ a) := by
  cases c <;> cases hc <;> rfl

end Combinator

/-! ## Calls -/

section Calls

variable {c : Combinator} {outer inner : Bool} {g : FirstOrderFunction} {x y : Operand}

/-- What follows the arguments, if they are bags. -/
theorem reports_searchValues (hc : c.searchesFor? = some (outer, inner)) {a b : Bag}
    {test : AttributeValue → AttributeValue → Eval Bool} (htest : ∀ v w, (test v w).Steady)
    (h : ∀ v ∈ a.values, ∀ w ∈ b.values, pairTest c.id g [x, y] v w = test v w) :
    ∃ s events, RowsEnd outer inner test a.values b.values s events ∧
      (searchValues c g [x, y] (.bag a) (.bag b)).Reports (s.map .ofBool) events := by
  obtain ⟨s, events, hends, hreports⟩ := reports_rows outer inner htest a.values b.values
  refine ⟨s, events, hends, ?_⟩
  have hrows : searchBags c (pairTest c.id g [x, y]) a b =
      seek outer (fun v => seek inner (test v) b.values) a.values := by
    rw [Combinator.searchBags_eq_seek hc]
    exact seek_congr fun v hv => seek_congr (h v hv)
  have hsearch := hreports.map Value.ofBool
  rw [← hrows] at hsearch
  exact hsearch

theorem runTwoBags_first (hc : c.searchesFor? = some (outer, inner))
    (hx : ∀ z ∈ [x, y], z.Reliable) (hbags : ∀ z ∈ [x, y], z.datatype.isBag = true) :
    EvaluatesFirst c.id 1 [x, y]
      (fun ws r events => ∃ a b, ws = [.bag a, .bag b] ∧
        (∃ s, r = s.map .ofBool ∧
          RowsEnd outer inner (fun v w => c.test g [v, w]) a.values b.values s events) ∧
        ∀ φ, (∀ v ∈ a.values, ∀ w ∈ b.values, g.on [v, w] = .ok (.ofBool (φ v w))) →
          r = .ok (.ofBool (c.quantifies φ a.values b.values)))
      (runTwoBags c g [x, y]) := by
  have hd : ∀ z ∈ [x, y], z.datatype ≠ .function := by
    intro z hz hfunction
    have hbag := hbags z hz
    rw [hfunction] at hbag
    cases hbag
  have hx' := hx
  have hbags' := hbags
  rw [List.forall_mem_cons, List.forall_mem_singleton] at hx' hbags'
  rw [runTwoBags_eq]
  refine evaluatesFirst_cons hx'.1.steady fun v hv => evaluatesFirst_cons hx'.2.steady fun w hw => ?_
  obtain ⟨a, rfl⟩ := hx'.1.bag_of_answers hbags'.1 hv
  obtain ⟨b, rfl⟩ := hx'.2.bag_of_answers hbags'.2 hw
  -- a pair has the types that the function has been bound to
  have hfits := domainFits_of_answers hx hd (.cons hv (.cons hw .nil))
  obtain ⟨s, events, hends, hreports⟩ := reports_searchValues (g := g) hc
    (fun v w => steady_test c g [v, w]) fun v hv w hw => by
      rw [pairTest, Combinator.test, types_combination (.cons hv (.cons hw .nil)) hfits]
  refine evaluatesFirst_nil ⟨a, b, rfl, ⟨s, rfl, hends⟩, fun φ hφ => ?_⟩ hreports
  rw [Combinator.quantifies_eq hc, hends.result_eq fun v hv w hw => ?_]
  · rfl
  · rw [(reports_test c g [v, w]).answer_eq, hφ v hv w hw]
    rfl

end Calls

/-! ## Trees -/

namespace Expr

variable {c : Combinator} {outer inner : Bool} {g : FirstOrderFunction} {f : Expr} {es : List Expr}
  {ctx : Option Context}

theorem eval_twoBags (hc : c.searchesFor? = some (outer, inner))
    (hf : f.value? = some (.function (.firstOrder g))) :
    (Expr.apply (.combinator c) (f :: es)).eval ctx = runTwoBags c g (es.map (operand ctx)) := by
  have hoperand : f.operand ctx = ⟨⟨f.datatype, some (.function (.firstOrder g))⟩, f.eval ctx⟩ := by
    rw [operand, static, hf]
  rw [eval_apply, List.map_cons, hoperand]
  cases c <;> cases hc <;> rfl

/-- A call of `all-of-any`, `any-of-all` or `all-of-all` that has been built evaluates its two bags
first, in order. If neither fails, it tests pairs of an element of the first and one of the second,
row by row, and leaves each row where it is decided and the rows where the answer is, or ends with
the first failure that it meets. If no test of a pair fails, it answers what the quantifiers say. -/
theorem twoBags_search_rows (hc : c.searchesFor? = some (outer, inner))
    (hf : f.value? = some (.function (.firstOrder g)))
    (hes : ∀ e ∈ es, ∀ w, e.answer ctx = .ok w → w.HasType e.datatype)
    (hb : c.bind ((f :: es).map static) = .ok ()) :
    EvaluatesFirst c.id 1 (es.map (operand ctx))
      (fun ws r events => ∃ a b, ws = [.bag a, .bag b] ∧
        (∃ s, r = s.map .ofBool ∧
          RowsEnd outer inner (fun v w => c.test g [v, w]) a.values b.values s events) ∧
        ∀ φ, (∀ v ∈ a.values, ∀ w ∈ b.values, g.on [v, w] = .ok (.ofBool (φ v w))) →
          r = .ok (.ofBool (c.quantifies φ a.values b.values)))
      ((Expr.apply (.combinator c) (f :: es)).eval ctx) := by
  obtain ⟨hn, -, -, -, -, hbags, -⟩ := Combinator.bind_eq_ok_iff.1 hb
  have hlen : es.length = 2 := by
    cases c <;> cases hc <;> simpa [Combinator.arity, Arity.admits] using hn
  have hdatatypes : ∀ e ∈ es, e.datatype.isBag = true := by
    cases c <;> cases hc <;> exact List.forall_mem_map.1 hbags
  obtain ⟨e, e', rfl⟩ := List.length_eq_two.1 hlen
  rw [eval_twoBags hc hf]
  refine runTwoBags_first hc ?_ ?_
  · exact List.forall_mem_map.2 fun e he => reliable_of_typed (hes e he)
  · exact List.forall_mem_map.2 fun e he => hdatatypes e he

/-- Whether each of some texts is among others. -/
theorem twoBags_search_rows_equal :
    ∃ f texts others : Expr, f.value? = some (.function (.firstOrder (Library.equal .string))) ∧
      Combinator.allOfAny.bind ([f, texts, others].map static) = .ok () ∧
      EvaluatesFirst Combinator.allOfAny.id 1 ([texts, others].map (operand none))
        (fun ws r events => ∃ a b, ws = [.bag a, .bag b] ∧
          (∃ s, r = s.map .ofBool ∧
            RowsEnd false true (fun v w => Combinator.allOfAny.test (Library.equal .string) [v, w])
              a.values b.values s events) ∧
          ∀ φ, (∀ v ∈ a.values, ∀ w ∈ b.values,
              (Library.equal .string).on [v, w] = .ok (.ofBool (φ v w))) →
            r = .ok (.ofBool (Combinator.allOfAny.quantifies φ a.values b.values)))
        ((Expr.apply (.combinator .allOfAny) [f, texts, others]).eval none) := by
  let f : Expr := .constant (.function (.firstOrder (Library.equal .string)))
  let texts : Expr := .constant (.bag (.ofList .string [.string "a", .string "b"] (by decide)))
  let others : Expr := .constant (.bag (.ofList .string [.string "b"] (by decide)))
  have hes : ∀ e ∈ [texts, others], ∀ w, e.answer none = .ok w → w.HasType e.datatype := by
    rw [List.forall_mem_cons, List.forall_mem_singleton]
    exact ⟨by rintro _ ⟨⟩; exact Value.hasType_bag _,
      by rintro _ ⟨⟩; exact Value.hasType_bag _⟩
  exact ⟨f, texts, others, rfl, rfl, twoBags_search_rows (f := f) rfl rfl hes rfl⟩

end Expr

end Xacml
