/-
What a combinator answers, when the order in which it calls its function is forgotten. If an argument
fails, so does the call. Otherwise the answer is told by the combinations of the values that the
arguments contribute, and by what the function answers when it is called with them: `any-of` and
`any-of-any` search for a true answer, `all-of` and `all-of-all` for a false one, `all-of-any` and
`any-of-all` search row by row, and `map` collects.
-/
import Xacml.Proofs.Combinator.OneBag
import Xacml.Proofs.Combinator.Product
import Xacml.Proofs.Combinator.Search
import Xacml.Proofs.Combinator.TwoBags

namespace Xacml

open Eval
open Value (combinations)

/-! ## What is answered -/

/-- A result is that of calls that all have to answer with single values: their answers in order,
or a failure if one of them fails. -/
inductive Collects (t : AttributeType) (on : List AttributeValue → Except Failure Value)
    (calls : List (List AttributeValue)) : Except Failure Value → Prop
  | collected {bs : List AttributeValue} (types : ∀ b ∈ bs, b.type = t) :
      List.Forall₂ (fun vs b => on vs = .ok (.single b)) calls bs →
      Collects t on calls (.ok (.bag (.ofList t bs types)))
  | failed {vs : List AttributeValue} {e e' : Failure} : vs ∈ calls → on vs = .error e →
      Collects t on calls (.error e')

/-- A result is that of a search among the combinations. -/
def SearchesCombinations (d : Bool) (g : FirstOrderFunction) (ws : List Value)
    (r : Except Failure Value) : Prop :=
  ∃ s : Except Failure Bool, r = s.map .ofBool ∧ Searches d (· ∈ combinations ws) g.on s

/-- A result is that of a search for a row, each with one element of the first bag. -/
def SearchesBags (d : Bool) (g : FirstOrderFunction) (ws : List Value)
    (r : Except Failure Value) : Prop :=
  ∃ (a b : Bag) (s : Except Failure Bool), ws = [.bag a, .bag b] ∧ r = s.map .ofBool ∧
    SearchesRows d (· ∈ a.values) (· ∈ b.values) (fun v w => g.on [v, w]) s

/-- The result that a combinator has when its arguments have answered `ws`. -/
def Combinator.Answered (c : Combinator) (g : FirstOrderFunction) (ws : List Value)
    (r : Except Failure Value) : Prop :=
  match c with
  | .anyOf | .anyOfAny => SearchesCombinations true g ws r
  | .allOf | .allOfAll => SearchesCombinations false g ws r
  | .allOfAny => SearchesBags false g ws r
  | .anyOfAll => SearchesBags true g ws r
  | .map => ∃ t, g.returns = .value t ∧ Collects t g.on (combinations ws) r

/-- The result of a call: a failure if an argument fails, and the answer of the combinator
otherwise. -/
structure Combinator.Yields (c : Combinator) (g : FirstOrderFunction) (xs : List Operand)
    (r : Except Failure Value) : Prop where
  failing : (∃ x ∈ xs, x.Failing) → ∃ e, r = .error e
  answered : ∀ ws, List.Forall₂ Operand.Answers xs ws → c.Answered g ws r

/-- An evaluation that starts with its arguments yields what it answers to their values. -/
theorem EvaluatesFirst.yields {c : Combinator} {g : FirstOrderFunction} {xs : List Operand}
    {proceeds : List Value → Except Failure Value → List Event → Prop} {x : Eval Value} {id : String}
    {index : Nat} (h : EvaluatesFirst id index xs proceeds x)
    (hanswered : ∀ ws r events, List.Forall₂ Operand.Answers xs ws → proceeds ws r events →
      c.Answered g ws r) : c.Yields g xs x.answer where
  failing := h.answer_error
  answered ws hws := by
    obtain ⟨r, events, hproceeds, hreports⟩ := h.answering ws hws
    rw [hreports.answer_eq]
    exact hanswered ws r events hws hproceeds

/-! ## One bag -/

section OneBag

variable {calls : List (List AttributeValue)} {r : Except Failure Value} {events : List Event}
  {on : List AttributeValue → Except Failure Value}

theorem combinations_aroundBag (before : List AttributeValue) (b : Bag) (after : List AttributeValue) :
    combinations (aroundBag before b after) = b.values.map fun v => before ++ v :: after := by
  rw [combinations, aroundBag, List.map_append, List.map_cons, List.map_map, List.map_map]
  exact Odometer.combinations_around before b.values after

theorem Seeks.searches {d : Bool} {test : List AttributeValue → Eval Bool}
    (h : Seeks d test calls r events)
    (hon : ∀ call ∈ calls, (test call).answer.map .ofBool = on call) :
    ∃ s, r = s.map .ofBool ∧ Searches d (· ∈ calls) on s := by
  obtain ⟨⟨s, rfl, hends⟩, -⟩ := h
  exact ⟨s, rfl, hends.searches hon⟩

theorem Maps.collects {t : AttributeType} {element : List AttributeValue → Eval AttributeValue}
    (h : Maps t element calls r events)
    (hon : ∀ call ∈ calls, (element call).answer.map .single = on call)
    (hbag : ∀ vs, List.Forall₂ (fun call v => on call = .ok (.single v)) calls vs →
      ∃ h, r = .ok (.bag (.ofList t vs h))) : Collects t on calls r := by
  obtain ⟨⟨s, hr, hends⟩, -⟩ := h
  cases hends with
  | @collected vs each =>
    have hvs : List.Forall₂ (fun call v => on call = .ok (.single v)) calls vs := by
      refine ((List.forall₂_and_left _ _).2 ⟨hon, each⟩).imp ?_
      rintro call v ⟨hcall, hv⟩
      rw [← hcall, hv]
      rfl
    obtain ⟨htypes, rfl⟩ := hbag vs hvs
    exact .collected htypes hvs
  | @failed before after call e split _ here =>
    subst hr
    have hcall : call ∈ calls := split ▸ List.mem_append_right before List.mem_cons_self
    refine .failed (e := e) hcall ?_
    rw [← hon call hcall, here]
    rfl

variable {c : Combinator} {g : FirstOrderFunction} {xs : List Operand}

theorem OneBagCall.unbound (h : OneBagCall g xs) : UnboundCall g xs :=
  ⟨h.library, h.reliable, h.noFunction, h.bind_types⟩

theorem OneBagCall.yields (h : OneBagCall g xs) (hc : c.IsOneBag) (hu : c.UsesReturns g.returns) :
    c.Yields g xs (runOneBag c g xs).answer := by
  refine (h.runOneBag_first hc hu).yields ?_
  rintro _ r events hws ⟨before, b, after, rfl, hconcludes⟩
  rw [← combinations_aroundBag] at hconcludes
  have hbound := fun call (hcall : call ∈ combinations _) => h.unbound.bind_of_mem hws hcall
  rcases hc with rfl | rfl | rfl
  · exact Seeks.searches hconcludes fun call hcall => test_on _ h.library hu (hbound call hcall)
  · exact Seeks.searches hconcludes fun call hcall => test_on _ h.library hu (hbound call hcall)
  · obtain ⟨t, ht, hmaps, hbag⟩ := hconcludes
    refine ⟨t, ht, hmaps.collects (fun call hcall => ?_) (hbag h.library)⟩
    exact element_on _ h.library ht (hbound call hcall)

end OneBag

/-! ## Every combination -/

namespace UnboundCall

variable {c : Combinator} {g : FirstOrderFunction} {xs : List Operand}

theorem everyCombination_yields (h : UnboundCall g xs) (hr : g.returns = .boolean) :
    Combinator.anyOfAny.Yields g xs (runEveryCombination .anyOfAny g xs).answer := by
  refine (runEveryCombination_first h.reliable h.noFunction .anyOfAny).yields ?_
  rintro ws _ events hws ⟨⟨s, rfl, places, -, hplaces, hends⟩, -⟩
  have hmem (vs : List AttributeValue) : vs ∈ combinations ws ↔
      ∃ place ∈ places, Odometer.pick (ws.map Value.contributed) place = vs := by
    rw [combinations, Odometer.combinations_eq_places, List.mem_map]
    simp only [hplaces, Odometer.mem_places]
  refine ⟨s, rfl, (hends.searches fun place hplace => ?_).image _ hmem⟩
  exact test_on _ h.library hr (h.bind_of_mem hws ((hmem _).2 ⟨place, hplace, rfl⟩))

end UnboundCall

/-! ## Two bags -/

section Rows

variable {α β : Type} {d : Bool} {test : α → β → Eval Bool} {as : List α} {bs : List β}
  {r : Except Failure Bool} {events : List Event} {on : α → β → Except Failure Value}

/-- Rows that are searched for the same boolean as they are make one search. -/
theorem RowsEnd.searches (h : RowsEnd d d test as bs r events)
    (hon : ∀ a ∈ as, ∀ b ∈ bs, (test a b).answer.map .ofBool = on a b) :
    Searches d (fun p : α × β => p.1 ∈ as ∧ p.2 ∈ bs) (fun p => on p.1 p.2) r := by
  obtain ⟨row, hrow, hends⟩ := h
  have hrows := hends.searches fun a _ => rfl
  exact hrows.join fun a ha => (hrow a ha).searches (hon a ha)

theorem RowsEnd.searchesRows (h : RowsEnd d (!d) test as bs r events)
    (hon : ∀ a ∈ as, ∀ b ∈ bs, (test a b).answer.map .ofBool = on a b) :
    SearchesRows d (· ∈ as) (· ∈ bs) on r := by
  obtain ⟨row, hrow, hends⟩ := h
  have hrows := hends.searches fun a _ => rfl
  exact hrows.rows fun a ha => (hrow a ha).searches (hon a ha)

end Rows

theorem UnboundCall.twoBags_yields {c : Combinator} {g : FirstOrderFunction} {xs : List Operand}
    (h : UnboundCall g xs) (hr : g.returns = .boolean) {outer inner : Bool}
    (hc : c.searchesFor? = some (outer, inner)) (hlen : xs.length = 2)
    (hbags : ∀ x ∈ xs, x.datatype.isBag = true) : c.Yields g xs (runTwoBags c g xs).answer := by
  obtain ⟨x, y, rfl⟩ := List.length_eq_two.1 hlen
  refine (runTwoBags_first hc h.reliable hbags).yields ?_
  rintro _ _ events hws ⟨a, b, rfl, ⟨s, rfl, hends⟩, -⟩
  have hmem (vs : List AttributeValue) : vs ∈ combinations [.bag a, .bag b] ↔
      ∃ p : AttributeValue × AttributeValue, (p.1 ∈ a.values ∧ p.2 ∈ b.values) ∧ [p.1, p.2] = vs := by
    rw [mem_combinations_pair]
    constructor
    · rintro ⟨v, hv, w, hw, rfl⟩
      exact ⟨(v, w), ⟨hv, hw⟩, rfl⟩
    · rintro ⟨p, ⟨hv, hw⟩, rfl⟩
      exact ⟨p.1, hv, p.2, hw, rfl⟩
  have hon : ∀ v ∈ a.values, ∀ w ∈ b.values,
      (c.test g [v, w]).answer.map .ofBool = g.on [v, w] := fun v hv w hw =>
    test_on _ h.library hr (h.bind_of_mem hws ((hmem _).2 ⟨(v, w), ⟨hv, hw⟩, rfl⟩))
  cases c <;> cases hc
  · exact ⟨a, b, s, rfl, rfl, hends.searchesRows hon⟩
  · exact ⟨a, b, s, rfl, rfl, hends.searchesRows hon⟩
  · exact ⟨s, rfl, (hends.searches hon).image _ hmem⟩

/-! ## Calls -/

theorem Combinator.run_yields {c : Combinator} {g : FirstOrderFunction} {first : Operand}
    {xs : List Operand} (hfirst : first.value? = some (.function (.firstOrder g)))
    (hg : g ∈ Library.firstOrder) (hx : ∀ x ∈ xs, x.Reliable)
    (hb : c.bind ((first :: xs).map (·.toStatic)) = .ok ()) :
    c.Yields g xs (c.run (first :: xs)).answer := by
  obtain ⟨⟨d, value?⟩, eval⟩ := first
  obtain rfl : value? = _ := hfirst
  rw [List.map_cons, bind_eq_ok_iff, List.length_map] at hb
  obtain ⟨hn, g', hg', hu, hd, hbags, hbound⟩ := hb
  cases hg'
  rw [List.forall_mem_map] at hd
  unfold boundPart givenPart at hbound
  unfold AdmitsBags at hbags
  cases c with
  | anyOf | allOf | map =>
    rw [List.takeWhile_map, List.dropWhile_map, List.filterMap_map] at hbound
    rw [List.countP_map] at hbags
    have hcall : OneBagCall g xs := ⟨⟨hx, hd, hbags, hbound⟩, hg⟩
    exact hcall.yields (by simp [IsOneBag]) hu
  | anyOfAny =>
    rw [List.filterMap_map] at hbound
    exact UnboundCall.everyCombination_yields ⟨hg, hx, hd, hbound⟩ hu
  | allOfAny | anyOfAll | allOfAll =>
    rw [List.filterMap_map] at hbound
    rw [List.forall_mem_map] at hbags
    have hcall : UnboundCall g xs := ⟨hg, hx, hd, hbound⟩
    have hlen : xs.length = 2 := by simpa [Combinator.arity, Arity.admits] using hn
    exact hcall.twoBags_yields hu rfl hlen hbags

end Xacml
