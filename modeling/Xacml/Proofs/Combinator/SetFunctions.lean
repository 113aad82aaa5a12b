/-
Set functions as combinators of equality. Membership is `any-of`, the subset relation is
`all-of-any`, having a value in common is `any-of-any`, and equality as sets is `all-of-any` in both
directions, each time with the function that compares two values of the type. The one side looks
values up in bags, the other is a search that calls a function for each pair; both answer, and they
answer the same. Doubles are left out: as numbers they are not equal as they are as values.
-/
import Xacml.Proofs.Bag.SetLaws
import Xacml.Proofs.Combinator.Answered
import Xacml.Proofs.Combinator.Delay
import Xacml.Proofs.Evaluation.Kernel

namespace Xacml

open Eval
open Value (combinations)

/-! ## Searches among candidates that answer -/

section Searches

variable {d b : Bool} {found exhausted failed : Prop} {r : Except Failure Bool}

/-- Where nothing fails, a search ends in the boolean that its candidates settle. -/
theorem Finding.eq_ok (h : Finding d found exhausted failed r) (hfailed : ¬ failed)
    (hfound : found → b = d) (hexhausted : exhausted → b = !d) : r = .ok b := by
  cases hr : r with
  | error e => exact absurd (h.failed e hr) hfailed
  | ok b' =>
    rcases h.of_ok hr with ⟨rfl, hf⟩ | ⟨rfl, he⟩
    · rw [hfound hf]
    · rw [hexhausted he]

variable {α β : Type}

/-- A search for a true answer among candidates that answer. -/
theorem Searches.eq_ok {C : α → Prop} {on : α → Except Failure Value} (h : Searches true C on r)
    (hon : ∀ v, C v → ∃ b', on v = .ok (.ofBool b'))
    (hb : b = true ↔ ∃ v, C v ∧ on v = .ok (.ofBool true)) : r = .ok b := by
  refine Finding.eq_ok h ?_ hb.2 ?_
  · rintro ⟨v, hv, e, he⟩
    obtain ⟨b', hb'⟩ := hon v hv
    cases he.symm.trans hb'
  · intro hnone
    refine Bool.eq_false_iff.2 fun htrue => ?_
    obtain ⟨v, hv, hfound⟩ := hb.1 htrue
    exact ofBool_ne_not true (hfound.symm.trans (hnone v hv))

/-- A search for a row without a true answer, among candidates that answer. -/
theorem SearchesRows.eq_ok {A : α → Prop} {B : β → Prop} {on : α → β → Except Failure Value}
    (h : SearchesRows false A B on r) (hon : ∀ v w, A v → B w → ∃ b', on v w = .ok (.ofBool b'))
    (hb : b = true ↔ ∀ v, A v → ∃ w, B w ∧ on v w = .ok (.ofBool true)) : r = .ok b := by
  refine Finding.eq_ok h ?_ ?_ hb.2
  · rintro ⟨v, hv, w, hw, e, he⟩
    obtain ⟨b', hb'⟩ := hon v w hv hw
    cases he.symm.trans hb'
  · rintro ⟨v, hv, hnone⟩
    refine Bool.eq_false_iff.2 fun htrue => ?_
    obtain ⟨w, hw, hfound⟩ := hb.1 htrue v hv
    exact ofBool_ne_not true (hfound.symm.trans (hnone w hw))

end Searches

/-! ## Checks -/

/-- A kernel takes any operands of the types that its signature accepts. -/
theorem FirstOrder.bind_kernel {g : FirstOrderFunction} {kind : KernelKind}
    {run : Arguments → Except Failure Value} {operands : List Static} {remaining : List AttributeType}
    (hg : g ∈ Library.firstOrder) (hbody : g.body = .kernel kind run)
    (h : g.signature.Accepts (operands.map Static.datatype ++ remaining.map .value)) :
    g.bind operands remaining = .ok () := by
  have hne := (Library.firstOrder_wellTyped hg).parameters_ne_nil
  rw [FirstOrder.bind_eq_ok_iff, hbody]
  exact ⟨⟨_, (Signature.check_eq_ok_iff hne).2 ⟨h, rfl⟩⟩, trivial⟩

/-! ## Equality -/

namespace Library

variable {t : AttributeType}

theorem mem_firstOrder_equal (t : AttributeType) : equal t ∈ firstOrder := by
  have hcomparisons : equal t ∈ comparisons := by
    simp only [comparisons, List.mem_append]
    exact .inl (.inl (List.mem_map_of_mem (AttributeType.mem_all t)))
  simp only [firstOrder, List.mem_append]
  exact .inl (.inl (.inl (.inl hcomparisons)))

theorem mem_firstOrder_bagsOf {g : FirstOrderFunction} (hg : g ∈ bagsOf t) : g ∈ firstOrder := by
  rw [firstOrder, List.mem_append]
  exact .inr (List.mem_flatMap.2 ⟨t, AttributeType.mem_all t, hg⟩)

/-- But for doubles, equality tells whether two values are the same. -/
theorem equal_on (ht : t ≠ .double) (v w : AttributeValue) :
    (equal t).on [v, w] = .ok (.ofBool (v.same w)) := by
  cases t with
  | double => exact absurd rfl ht
  | _ => exact FirstOrder.on_kernel (g := equal _) rfl [v, w]

theorem equal_on_eq_true (ht : t ≠ .double) {v w : AttributeValue} :
    (equal t).on [v, w] = .ok (.ofBool true) ↔ v.same w = true := by
  rw [equal_on ht]
  cases v.same w <;> simp [Value.ofBool]

end Library

theorem Bag.contains_iff_exists {b : Bag} {v : AttributeValue} :
    b.contains v = true ↔ ∃ w ∈ b.values, v.same w = true := by
  simp only [Bag.contains, List.any_eq_true, Bag.same_comm v]

section Equal

variable {t : AttributeType} {w w' : Value} {r : Except Failure Value} {p : Bool}

/-- Whether some pair of values is equal. -/
theorem SearchesCombinations.eq_ok_of_equal (ht : t ≠ .double)
    (h : SearchesCombinations true (Library.equal t) [w, w'] r)
    (hp : p = true ↔ ∃ v ∈ w.contributed, ∃ v' ∈ w'.contributed, v.same v' = true) :
    r = .ok (.ofBool p) := by
  obtain ⟨s, rfl, hs⟩ := h
  suffices hsearch : s = .ok p by rw [hsearch]; rfl
  refine hs.eq_ok ?_ (hp.trans ?_)
  · intro vs hvs
    obtain ⟨v, -, v', -, rfl⟩ := mem_combinations_pair.1 hvs
    exact ⟨_, Library.equal_on ht v v'⟩
  · constructor
    · rintro ⟨v, hv, v', hv', hsame⟩
      exact ⟨[v, v'], mem_combinations_pair.2 ⟨v, hv, v', hv', rfl⟩,
        (Library.equal_on_eq_true ht).2 hsame⟩
    · rintro ⟨vs, hvs, hon⟩
      obtain ⟨v, hv, v', hv', rfl⟩ := mem_combinations_pair.1 hvs
      exact ⟨v, hv, v', hv', (Library.equal_on_eq_true ht).1 hon⟩

/-- Whether every value of the first bag equals some value of the second. -/
theorem SearchesBags.eq_ok_of_equal {a b : Bag} (ht : t ≠ .double)
    (h : SearchesBags false (Library.equal t) [.bag a, .bag b] r) :
    r = .ok (.ofBool (a.isSubset b)) := by
  obtain ⟨_, _, s, ⟨⟩, rfl, hs⟩ := h
  suffices hsearch : s = .ok (a.isSubset b) by rw [hsearch]; rfl
  refine hs.eq_ok (fun v w _ _ => ⟨_, Library.equal_on ht v w⟩) ?_
  rw [Bag.isSubset, List.all_eq_true]
  refine forall₂_congr fun v _ => Bag.contains_iff_exists.trans ?_
  exact exists_congr fun w => and_congr_right fun _ => (Library.equal_on_eq_true ht).symm

end Equal

/-! ## Trees -/

namespace Expr

/-- In a context, a tree is of a datatype and evaluates to a value of it. -/
structure Gives (ctx : Option Context) (e : Expr) (d : Datatype) (w : Value) : Prop where
  datatype : e.datatype = d
  answers : e.answer ctx = .ok w
  typed : w.HasType d

/-- A call can be built, and whatever store it is evaluated with, it answers with this boolean. -/
structure Decides (ctx : Option Context) (f : Function) (es : List Expr) (b : Bool) : Prop where
  built : f.bind (es.map static) [] = .ok ()
  answers : ∀ cache : Pattern.Cache, cache.Faithful →
    ((apply f es).eval ctx cache).result = .ok (.ofBool b)

variable {ctx : Option Context} {t : AttributeType} {e f x y z : Expr} {es : List Expr}
  {d d' : Datatype} {v : AttributeValue} {w w' : Value} {a b : Bag}

theorem Gives.reliable (h : e.Gives ctx d w) : (e.operand ctx).Reliable := by
  refine reliable_of_typed fun w' hw' => ?_
  cases h.answers.symm.trans hw'
  exact h.datatype ▸ h.typed

theorem Gives.element? (h : e.Gives ctx d w) (hd : d = .value t ∨ d = .bag t) :
    e.static.element? = some t := by
  rw [Static.element?, static, h.datatype]
  rcases hd with rfl | rfl <;> rfl

theorem Gives.ne_function (h : e.Gives ctx d w) (hd : d = .value t ∨ d = .bag t) :
    e.static.datatype ≠ .function := by
  rw [static, h.datatype]
  rcases hd with rfl | rfl <;> exact fun hfunction => by cases hfunction

theorem Gives.pair (hx : x.Gives ctx d w) (hy : y.Gives ctx d' w') :
    (∀ o ∈ [x.operand ctx, y.operand ctx], o.Reliable) ∧
      List.Forall₂ Operand.Answers [x.operand ctx, y.operand ctx] [w, w'] :=
  ⟨List.forall_mem_cons.2 ⟨hx.reliable, List.forall_mem_singleton.2 hy.reliable⟩,
    .cons hx.answers (.cons hy.answers .nil)⟩

theorem decides_of_answer {f : Function} {p : Bool} (hb : f.bind (es.map static) [] = .ok ())
    (h : (apply f es).answer ctx = .ok (.ofBool p)) : Decides ctx f es p where
  built := hb
  answers _ hc := ((apply f es).steady ctx).result_eq hc |>.trans h

/-- A kernel decides what it answers on the values that its arguments evaluate to. -/
theorem decides_kernel {g : FirstOrderFunction} {kind : KernelKind}
    {run : Arguments → Except Failure Value} {p : Bool} (hg : g ∈ Library.firstOrder)
    (hbody : g.body = .kernel kind run) (hs : g.signature = .fixed [d, d'])
    (hx : x.Gives ctx d w) (hy : y.Gives ctx d' w')
    (hrun : run (.ofValues [w, w']) = .ok (.ofBool p)) : Decides ctx (.firstOrder g) [x, y] p := by
  have hb : g.bind ([x, y].map static) [] = .ok () := by
    refine FirstOrder.bind_kernel hg hbody ?_
    rw [hs, Signature.accepts_fixed, ← hx.datatype, ← hy.datatype]
    rfl
  obtain ⟨hreliable, hanswers⟩ := hx.pair hy
  have hcall := FirstOrder.answer_kernel hg hbody hreliable hb hanswers
  refine decides_of_answer hb ?_
  rw [answer, eval_apply]
  refine hcall.trans ?_
  rw [hrun]
  rfl

/-- A search with equality decides what it answers on the values that its arguments evaluate to. -/
theorem decides_equal {c : Combinator} {p : Bool}
    (hf : f.value? = some (.function (.firstOrder (Library.equal t))))
    (hx : x.Gives ctx d w) (hy : y.Gives ctx d' w') (hn : c.arity.admits 3 = true)
    (hu : c.UsesReturns .boolean) (hbags : c.AdmitsBags [x.static, y.static])
    (hd : d = .value t ∨ d = .bag t) (hd' : d' = .value t ∨ d' = .bag t)
    (hanswered : ∀ r, c.Answered (Library.equal t) [w, w'] r → r = .ok (.ofBool p)) :
    Decides ctx (.combinator c) [f, x, y] p := by
  have hg := Library.mem_firstOrder_equal t
  have ht := hx.element? hd
  have ht' := hy.element? hd'
  have hfunction : ∀ s ∈ [x.static, y.static], s.datatype ≠ .function :=
    List.forall_mem_cons.2 ⟨hx.ne_function hd, List.forall_mem_singleton.2 (hy.ne_function hd')⟩
  have hb : c.bind ([f, x, y].map static) = .ok () := by
    refine (Combinator.bind_eq_of_checks hn hf hu hfunction hbags).trans ?_
    refine FirstOrder.bind_kernel hg rfl ?_
    rw [Combinator.callTypes_eq hfunction, List.filterMap_cons, ht, List.filterMap_cons, ht']
    exact Signature.accepts_fixed.2 rfl
  obtain ⟨hreliable, hanswers⟩ := hx.pair hy
  have hfirst : (f.operand ctx).value? = some (.function (.firstOrder (Library.equal t))) := hf
  have hyields := Combinator.run_yields hfirst hg hreliable hb
  refine decides_of_answer hb ?_
  rw [answer, eval_apply]
  exact hanswered _ (hyields.answered _ hanswers)

section SetFunctions

variable (ht : t ≠ .double) (hf : f.value? = some (.function (.firstOrder (Library.equal t))))
include ht hf

theorem decides_anyOf (hx : x.Gives ctx (.value t) (.single v))
    (hy : y.Gives ctx (.bag t) (.bag a)) :
    Decides ctx (.combinator .anyOf) [f, x, y] (a.contains v) := by
  have hbags : Combinator.anyOf.AdmitsBags [x.static, y.static] := by
    simp [Combinator.AdmitsBags, static, hx.datatype, hy.datatype, Datatype.isBag]
  refine decides_equal hf hx hy rfl rfl hbags (.inl rfl) (.inr rfl) fun r hr => ?_
  refine SearchesCombinations.eq_ok_of_equal ht hr ?_
  simp only [Value.contributed, List.mem_singleton, exists_eq_left, Bag.contains_iff_exists]

theorem decides_anyOfAny (hy : y.Gives ctx (.bag t) (.bag a)) (hz : z.Gives ctx (.bag t) (.bag b)) :
    Decides ctx (.combinator .anyOfAny) [f, y, z] (a.meets b) := by
  refine decides_equal hf hy hz rfl rfl trivial (.inr rfl) (.inr rfl) fun r hr => ?_
  refine SearchesCombinations.eq_ok_of_equal ht hr (List.any_eq_true.trans ?_)
  exact exists_congr fun v => and_congr_right fun _ => Bag.contains_iff_exists

theorem decides_allOfAny (hy : y.Gives ctx (.bag t) (.bag a)) (hz : z.Gives ctx (.bag t) (.bag b)) :
    Decides ctx (.combinator .allOfAny) [f, y, z] (a.isSubset b) := by
  have hbags : Combinator.allOfAny.AdmitsBags [y.static, z.static] := by
    simp [Combinator.AdmitsBags, static, hy.datatype, hz.datatype, Datatype.isBag]
  refine decides_equal hf hy hz rfl rfl hbags (.inr rfl) (.inr rfl) fun r hr => ?_
  exact SearchesBags.eq_ok_of_equal ht hr

end SetFunctions

theorem decides_isIn (hx : x.Gives ctx (.value t) (.single v))
    (hy : y.Gives ctx (.bag t) (.bag a)) :
    Decides ctx (.firstOrder (Library.isIn t)) [x, y] (a.contains v) := by
  have hg : Library.isIn t ∈ Library.bagsOf t := by simp [Library.bagsOf]
  exact decides_kernel (Library.mem_firstOrder_bagsOf hg) rfl rfl hx hy rfl

theorem decides_bagRelation {name : String} {related : Bag → Bag → Bool}
    (hg : Library.bagRelation t name related ∈ Library.bagsOf t)
    (hy : y.Gives ctx (.bag t) (.bag a)) (hz : z.Gives ctx (.bag t) (.bag b)) :
    Decides ctx (.firstOrder (Library.bagRelation t name related)) [y, z] (related a b) :=
  decides_kernel (Library.mem_firstOrder_bagsOf hg) rfl rfl hy hz rfl

/-- Each set function decides what its definition by a search with equality decides. -/
structure SetFunctionsAgree (ctx : Option Context) (t : AttributeType) (f x y z : Expr)
    (v : AttributeValue) (a b : Bag) : Prop where
  isIn : Decides ctx (.firstOrder (Library.isIn t)) [x, y] (a.contains v)
  isIn_anyOf : Decides ctx (.combinator .anyOf) [f, x, y] (a.contains v)
  subset : Decides ctx (.firstOrder (Library.bagRelation t "subset" Bag.isSubset)) [y, z]
    (a.isSubset b)
  subset_allOfAny : Decides ctx (.combinator .allOfAny) [f, y, z] (a.isSubset b)
  meets : Decides ctx (.firstOrder (Library.bagRelation t "at-least-one-member-of" Bag.meets)) [y, z]
    (a.meets b)
  meets_anyOfAny : Decides ctx (.combinator .anyOfAny) [f, y, z] (a.meets b)
  /-- The conjunction of the two directions. -/
  setEquals : Decides ctx (.firstOrder (Library.bagRelation t "set-equals" Bag.setEquals)) [y, z]
    (a.isSubset b && b.isSubset a)
  superset_allOfAny : Decides ctx (.combinator .allOfAny) [f, z, y] (b.isSubset a)

/-- On a value and two bags of one type, but for doubles, all calls answer, and the set functions
answer as their definitions do. -/
theorem setFunctions_agree (ht : t ≠ .double)
    (hf : f.value? = some (.function (.firstOrder (Library.equal t))))
    (hx : x.Gives ctx (.value t) (.single v)) (hy : y.Gives ctx (.bag t) (.bag a))
    (hz : z.Gives ctx (.bag t) (.bag b)) : SetFunctionsAgree ctx t f x y z v a b where
  isIn := decides_isIn hx hy
  isIn_anyOf := decides_anyOf ht hf hx hy
  subset := decides_bagRelation (by simp [Library.bagsOf]) hy hz
  subset_allOfAny := decides_allOfAny ht hf hy hz
  meets := decides_bagRelation (by simp [Library.bagsOf]) hy hz
  meets_anyOfAny := decides_anyOfAny ht hf hy hz
  setEquals := Bag.setEquals_eq a b ▸ decides_bagRelation (by simp [Library.bagsOf]) hy hz
  superset_allOfAny := decides_allOfAny ht hf hz hy

/-- Noon in UTC, which is an hour past noon elsewhere, among other times and twice. -/
theorem setFunctions_agree_noon :
    ∃ (f x y z : Expr) (v : AttributeValue) (a b : Bag),
      f.value? = some (.function (.firstOrder (Library.equal .dateTime))) ∧
      x.Gives none (.value .dateTime) (.single v) ∧ y.Gives none (.bag .dateTime) (.bag a) ∧
      z.Gives none (.bag .dateTime) (.bag b) ∧ (∀ w ∈ a.values, w ≠ v) ∧ a.contains v = true ∧
      (a.isSubset b && b.isSubset a) = true ∧ SetFunctionsAgree none .dateTime f x y z v a b := by
  let v := Bag.clock 13 60
  let a : Bag := .ofList .dateTime [Bag.clock 12 0, Bag.clock 0 0, Bag.clock 12 0] (by decide)
  let b : Bag := .ofList .dateTime [Bag.clock 1 60, v] (by decide)
  let f : Expr := .constant (.function (.firstOrder (Library.equal .dateTime)))
  have hv : Gives none (.constant (.single v)) (.value .dateTime) (.single v) :=
    ⟨rfl, rfl, Value.hasType_single _⟩
  have ha : Gives none (.constant (.bag a)) (.bag .dateTime) (.bag a) :=
    ⟨rfl, rfl, Value.hasType_bag a⟩
  have hb : Gives none (.constant (.bag b)) (.bag .dateTime) (.bag b) :=
    ⟨rfl, rfl, Value.hasType_bag b⟩
  exact ⟨f, _, _, _, v, a, b, rfl, hv, ha, hb, by decide, by decide, by decide,
    setFunctions_agree (by decide) rfl hv ha hb⟩

end Expr

end Xacml
