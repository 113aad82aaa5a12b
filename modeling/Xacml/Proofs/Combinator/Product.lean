/-
The course of `any-of-any`. Its arguments are evaluated first, and an empty bag among them does not
keep those after it from being evaluated. Then the function is called with the values at one place
of each domain, where the places come in lexicographic order and each of them once, up to the first
call that is true or fails. Without such a call all places have been tried, and the answer is false.
-/
import Xacml.Proofs.Combinator.EveryCombination

namespace Xacml

open Eval

variable {α : Type}

/-! ## Searching a product -/

/-- A search through the combinations of one value of each domain, in the lexicographic order of their
places. -/
def SearchesProduct [Inhabited α] (test : List α → Eval Bool) (domains : List (List α))
    (r : Except Failure Bool) (events : List Event) : Prop :=
  ∃ places : List (List Nat),
    places.Pairwise (· < ·) ∧
    (∀ place, place ∈ places ↔ List.Forall₂ (fun i domain => i < domain.length) place domains) ∧
    SearchEnds true (fun place => test (Odometer.pick domains place)) places r events

section Product

variable [Inhabited α] {test : List α → Eval Bool} {domains : List (List α)}

/-- To search through the list of the combinations is to go through their places. -/
theorem reports_product (htest : ∀ as, (test as).Steady) (domains : List (List α)) :
    ∃ r events, SearchesProduct test domains r events ∧
      (seek true test (Odometer.combinations domains)).Reports r events := by
  rw [Odometer.combinations_eq_places, seek_map]
  obtain ⟨r, events, hends, hreports⟩ :=
    reports_seek (fun place => htest (Odometer.pick domains place)) (Odometer.places domains)
  exact ⟨r, events, ⟨_, Odometer.pairwise_places domains, fun _ => Odometer.mem_places, hends⟩,
    hreports⟩

/-- An empty domain has no place, so that nothing is tested. -/
theorem SearchesProduct.of_empty {r : Except Failure Bool} {events : List Event}
    (h : SearchesProduct test domains r events) (hempty : [] ∈ domains) :
    r = .ok false ∧ events = [] := by
  obtain ⟨places, -, hplaces, hends⟩ := h
  have hnone : places = [] := by
    rw [List.eq_nil_iff_forall_not_mem]
    intro place hplace
    obtain ⟨i, hi, hdomain⟩ := List.getElem_of_mem hempty
    have hforall := (hplaces place).1 hplace
    have hlt := hforall.get (hforall.length_eq ▸ hi) hi
    simp [hdomain] at hlt
  subst hnone
  exact hends.of_nil

end Product

/-! ## Calls -/

section Calls

variable {g : FirstOrderFunction} {xs : List Operand}

theorem runEveryCombination_first (hx : ∀ x ∈ xs, x.Reliable)
    (hd : ∀ x ∈ xs, x.datatype ≠ .function) (c : Combinator) :
    EvaluatesFirst c.id 1 xs
      (fun ws r events =>
        (∃ s, r = s.map .ofBool ∧
          SearchesProduct (c.test g) (ws.map Value.contributed) s events) ∧
        ((∃ w ∈ ws, w.contributed = []) → r = .ok (.ofBool false) ∧ events = []))
      (runEveryCombination c g xs) := by
  rw [runEveryCombination_eq]
  refine (evaluateDomains_first hx hd c.id 1).bind fun ws hws => ?_
  -- the types that the call was bound to are those of the values of every combination
  have hcalls : seek true (subTest c.id g [] (xs.filterMap (·.toStatic.element?)))
      (Odometer.combinations (ws.map Value.contributed)) =
      seek true (c.test g) (Odometer.combinations (ws.map Value.contributed)) := by
    refine seek_congr fun vs hvs => ?_
    rw [Combinator.test, types_combination (Odometer.mem_combinations.1 hvs)
      (domainFits_of_answers hx hd hws)]
  obtain ⟨s, events, hproduct, hreports⟩ :=
    reports_product (steady_test c g) (ws.map Value.contributed)
  rw [hcalls]
  refine ⟨_, events, ⟨⟨s, rfl, hproduct⟩, ?_⟩, hreports.map Value.ofBool⟩
  rintro ⟨w, hw, hempty⟩
  obtain ⟨rfl, rfl⟩ := hproduct.of_empty (List.mem_map.2 ⟨w, hw, hempty⟩)
  exact ⟨rfl, rfl⟩

end Calls

/-! ## Trees -/

namespace Expr

variable {g : FirstOrderFunction} {f : Expr} {es : List Expr} {ctx : Option Context}

/-- A call of `any-of-any` that has been built evaluates its arguments once each, from left to right,
and fails with the failure of the first that fails, under its position. If none fails, it calls the
function with the combinations of one value of each argument, in the lexicographic order of their
places and each once, up to the first that is true or fails; if there is none, it has tried them all
and answers false. If some argument contributes no value, it answers so without a call. -/
theorem anyOfAny_searches_product (hf : f.value? = some (.function (.firstOrder g)))
    (hes : ∀ e ∈ es, ∀ w, e.answer ctx = .ok w → w.HasType e.datatype)
    (hb : Combinator.anyOfAny.bind ((f :: es).map static) = .ok ()) :
    EvaluatesFirst Combinator.anyOfAny.id 1 (es.map (operand ctx))
      (fun ws r events =>
        (∃ s, r = s.map .ofBool ∧
          SearchesProduct (Combinator.anyOfAny.test g) (ws.map Value.contributed) s events) ∧
        ((∃ w ∈ ws, w.contributed = []) → r = .ok (.ofBool false) ∧ events = []))
      ((Expr.apply (.combinator .anyOfAny) (f :: es)).eval ctx) := by
  obtain ⟨-, -, -, -, hd, -, -⟩ := Combinator.bind_eq_ok_iff.1 hb
  rw [List.forall_mem_map] at hd
  rw [eval_everyCombination hf]
  refine runEveryCombination_first ?_ (List.forall_mem_map.2 hd) _
  exact List.forall_mem_map.2 fun e he => reliable_of_typed (hes e he)

/-- Two bags of two texts each. -/
theorem anyOfAny_searches_product_equal :
    ∃ f texts : Expr, f.value? = some (.function (.firstOrder (Library.equal .string))) ∧
      Combinator.anyOfAny.bind ([f, texts, texts].map static) = .ok () ∧
      EvaluatesFirst Combinator.anyOfAny.id 1 ([texts, texts].map (operand none))
        (fun ws r events =>
          (∃ s, r = s.map .ofBool ∧ SearchesProduct
            (Combinator.anyOfAny.test (Library.equal .string)) (ws.map Value.contributed) s events) ∧
          ((∃ w ∈ ws, w.contributed = []) → r = .ok (.ofBool false) ∧ events = []))
        ((Expr.apply (.combinator .anyOfAny) [f, texts, texts]).eval none) := by
  let f : Expr := .constant (.function (.firstOrder (Library.equal .string)))
  let texts : Expr := .constant (.bag (.ofList .string [.string "a", .string "b"] (by decide)))
  have hes : ∀ e ∈ [texts, texts], ∀ w, e.answer none = .ok w → w.HasType e.datatype := by
    rw [List.forall_mem_cons, List.forall_mem_singleton]
    exact ⟨by rintro _ ⟨⟩; exact Value.hasType_bag _,
      by rintro _ ⟨⟩; exact Value.hasType_bag _⟩
  exact ⟨f, texts, rfl, rfl, anyOfAny_searches_product (f := f) rfl hes rfl⟩

end Expr

end Xacml
