/-
The course of `any-of`, `all-of` and `map`. The arguments are evaluated first, also where the bag among
them is empty. Then the function is called with the arguments' values, each element of the bag in the
place of the bag, in the order of the bag. `any-of` is a search for a true answer and `all-of` one
for a false answer; `map` collects the answers, one for each element.
-/
import Xacml.Proofs.Combinator.Split

namespace Xacml

open Eval

/-! ## Values around a bag -/

/-- The values of arguments with one bag among them. -/
def aroundBag (before : List AttributeValue) (b : Bag) (after : List AttributeValue) : List Value :=
  before.map Value.single ++ Value.bag b :: after.map Value.single

/-- A slot as the value that it was made of. -/
def Slot.toValue : Slot → Value
  | .value v => .single v
  | .bag b => .bag b

theorem map_toValue_ofValue {ws : List Value} (hf : ∀ w ∈ ws, w.datatype ≠ .function) :
    (ws.map Slot.ofValue).map Slot.toValue = ws := by
  rw [List.map_map]
  refine (List.map_congr_left fun w hw => ?_).trans (List.map_id _)
  cases w with
  | function f => exact absurd rfl (hf _ hw)
  | _ => rfl

theorem map_toValue_around (before after : List AttributeValue) (b : Bag) :
    (Slot.around before b after).map Slot.toValue = aroundBag before b after := by
  rw [Slot.around, List.map_append, List.map_cons, List.map_map, List.map_map]
  rfl

theorem map_ofValue_aroundBag (before after : List AttributeValue) (b : Bag) :
    (aroundBag before b after).map Slot.ofValue = Slot.around before b after := by
  rw [aroundBag, List.map_append, List.map_cons, List.map_map, List.map_map]
  rfl

/-- What arguments with one bag among them answer. -/
theorem exists_aroundBag {xs : List Operand} {ws : List Value}
    (hfits : SlotsFit (ws.map Slot.ofValue) xs) (hone : xs.countP (·.datatype.isBag) = 1)
    (hf : ∀ w ∈ ws, w.datatype ≠ .function) : ∃ before b after, ws = aroundBag before b after := by
  obtain ⟨before, b, after, haround⟩ := hfits.exists_around hone
  refine ⟨before, b, after, ?_⟩
  rw [← map_toValue_ofValue hf, haround, map_toValue_around]

/-! ## What follows the arguments -/

/-- A search for `d` among calls, whose boolean is the answer. -/
def Seeks (d : Bool) (test : List AttributeValue → Eval Bool) (calls : List (List AttributeValue))
    (r : Except Failure Value) (events : List Event) : Prop :=
  (∃ s, r = s.map .ofBool ∧ SearchEnds d test calls s events) ∧
    (calls = [] → r = .ok (.ofBool !d) ∧ events = [])

/-- The answers of calls are collected to a bag of type `t`, unless one of them is of another type. -/
def Maps (t : AttributeType) (element : List AttributeValue → Eval AttributeValue)
    (calls : List (List AttributeValue)) (r : Except Failure Value) (events : List Event) : Prop :=
  (∃ s, r = (s >>= fun vs => (Bag.checked t vs).map .bag) ∧ CollectEnds element calls s events) ∧
    (calls = [] → r = .ok (.bag (.empty t)) ∧ events = [])

/-- What a combinator of one bag makes of calls of its function: `any-of` searches for a true answer
and `all-of` for a false one, and `map` collects the answers. A function of the library answers with
values of its type, so that the bag of them is made. -/
def Combinator.Concludes (c : Combinator) (g : FirstOrderFunction)
    (calls : List (List AttributeValue)) (r : Except Failure Value) (events : List Event) : Prop :=
  match c with
  | .map => ∃ t, g.returns = .value t ∧ Maps t (c.element g) calls r events ∧
      (g ∈ Library.firstOrder →
        ∀ vs, List.Forall₂ (fun call v => g.on call = .ok (.single v)) calls vs →
          ∃ h, r = .ok (.bag (.ofList t vs h)))
  | .anyOf => Seeks true (c.test g) calls r events
  | _ => Seeks false (c.test g) calls r events

section Calls

variable {as : List AttributeValue} {f : AttributeValue → List AttributeValue}

theorem reports_seeks {d : Bool} {test : List AttributeValue → Eval Bool}
    {p : AttributeValue → Eval Bool} (htest : ∀ vs, (test vs).Steady)
    (h : ∀ a ∈ as, p a = test (f a)) :
    ∃ r events, Seeks d test (as.map f) r events ∧
      (seek d p as >>= fun b => pure (.ofBool b)).Reports r events := by
  obtain ⟨s, events, hends, hreports⟩ := reports_seek (d := d) htest (as.map f)
  rw [seek_map, ← seek_congr h] at hreports
  refine ⟨_, events, ⟨⟨s, rfl, hends⟩, fun hnone => ?_⟩, hreports.map Value.ofBool⟩
  rw [hnone] at hends
  obtain ⟨rfl, rfl⟩ := hends.of_nil
  exact ⟨rfl, rfl⟩

theorem reports_maps (t : AttributeType) {element : List AttributeValue → Eval AttributeValue}
    {p : AttributeValue → Eval AttributeValue} (helement : ∀ vs, (element vs).Steady)
    (h : ∀ a ∈ as, p a = element (f a)) :
    ∃ r events, Maps t element (as.map f) r events ∧
      (each p as >>= fun vs => done (Bag.checked t vs) >>= fun b => pure (.bag b)).Reports r
        events := by
  obtain ⟨s, events, hends, hreports⟩ := reports_each helement (as.map f)
  rw [each_map, ← each_congr h] at hreports
  refine ⟨s >>= fun vs => (Bag.checked t vs).map .bag, events, ⟨⟨s, rfl, hends⟩, ?_⟩, ?_⟩
  · intro hnone
    rw [hnone] at hends
    obtain ⟨rfl, rfl⟩ := hends.of_nil
    exact ⟨rfl, rfl⟩
  · cases s with
    | error e => exact hreports.bind_error
    | ok vs =>
      have hbag := (reports_done (Bag.checked t vs)).map Value.bag
      rw [← List.append_nil events]
      exact hreports.bind hbag

/-- Where the calls answer with values of the type, the bag of the answers is made. -/
theorem Maps.result_eq {t : AttributeType} {c : Combinator} {g : FirstOrderFunction}
    {calls : List (List AttributeValue)} {r : Except Failure Value} {events : List Event}
    (h : Maps t (c.element g) calls r events)
    (htypes : ∀ call ∈ calls, ∀ w, g.on call = .ok w → w.HasType (.value t))
    {vs : List AttributeValue}
    (hvs : List.Forall₂ (fun call v => g.on call = .ok (.single v)) calls vs) :
    ∃ htypes, r = .ok (.bag (.ofList t vs htypes)) := by
  obtain ⟨⟨s, rfl, hends⟩, -⟩ := h
  have hcollected : s = .ok vs := by
    refine hends.result_eq (hvs.imp fun call v hv => ?_)
    rw [(reports_element c g call).answer_eq, hv]
    rfl
  have hall : ∀ v ∈ vs, v.type = t := by
    intro v hv
    obtain ⟨i, hi, rfl⟩ := List.getElem_of_mem hv
    have hi' := hvs.length_eq ▸ hi
    obtain ⟨_, ⟨⟩, htype⟩ := Value.hasType_value_iff.1
      (htypes _ (List.getElem_mem hi') _ (hvs.get hi' hi))
    exact htype
  refine ⟨hall, ?_⟩
  rw [hcollected, ok_bind, Bag.checked_of_types hall]
  rfl

end Calls

section Conclusion

variable {c : Combinator} {g : FirstOrderFunction} {types : List AttributeType}
  {before after : List AttributeValue} {b : Bag}

theorem reports_conclude_map {t : AttributeType} (ht : g.returns = .value t)
    (htypes : ∀ v ∈ b.values, (before ++ v :: after).map AttributeValue.type = types)
    (hbind : g.bind [] types = .ok ()) :
    ∃ r events, Combinator.map.Concludes g (b.values.map fun v => before ++ v :: after) r events ∧
      (conclude .map g [] types (Slot.around before b after)).Reports r events := by
  have hcall (v) (hv : v ∈ b.values) :
      subCall g [] types (Slot.fill (Slot.around before b after) v) =
        g.call (before ++ v :: after) := by
    rw [fill_around, FirstOrder.call, htypes v hv]
  have hmaps : ∃ r events, Maps t (Combinator.map.element g)
      (b.values.map fun v => before ++ v :: after) r events ∧
      (conclude .map g [] types (Slot.around before b after)).Reports r events := by
    unfold conclude
    rw [elements_around]
    simp only [ht]
    refine reports_maps t (steady_element .map g) fun v hv => ?_
    rw [hcall v hv]
    rfl
  obtain ⟨r, events, hends, hreports⟩ := hmaps
  refine ⟨r, events, ⟨t, ht, hends, fun hg vs hvs => hends.result_eq ?_ hvs⟩, hreports⟩
  rw [List.forall_mem_map]
  intro v hv w hw
  -- the function is bound to the types of every call
  have htype := FirstOrder.on_hasType hg (by rw [htypes v hv]; exact hbind) hw
  rwa [ht] at htype

/-- The calls are made with each element of the bag in its place, in order. -/
theorem reports_conclude (hc : c.IsOneBag) (hu : c.UsesReturns g.returns)
    (htypes : ∀ v ∈ b.values, (before ++ v :: after).map AttributeValue.type = types)
    (hbind : g.bind [] types = .ok ()) :
    ∃ r events, c.Concludes g (b.values.map fun v => before ++ v :: after) r events ∧
      (conclude c g [] types (Slot.around before b after)).Reports r events := by
  have htest (c : Combinator) (v) (hv : v ∈ b.values) :
      subTest c.id g [] types (Slot.fill (Slot.around before b after) v) =
        c.test g (before ++ v :: after) := by
    rw [fill_around, Combinator.test, htypes v hv]
  rcases hc with rfl | rfl | rfl
  · have hseeks := reports_seeks (d := true) (steady_test .anyOf g) (htest .anyOf)
    rw [← any_eq_seek] at hseeks
    unfold conclude
    rw [elements_around]
    exact hseeks
  · have hseeks := reports_seeks (d := false) (steady_test .allOf g) (htest .allOf)
    rw [← all_eq_seek] at hseeks
    unfold conclude
    rw [elements_around]
    exact hseeks
  · obtain ⟨t, ht⟩ := hu
    exact reports_conclude_map ht htypes hbind

end Conclusion

/-- With all of its arguments given, the function is bound to the same types. -/
theorem OneBagArguments.bind_types {g : FirstOrderFunction} {xs : List Operand}
    (h : OneBagArguments g xs) : g.bind [] (xs.filterMap (·.toStatic.element?)) = .ok () := by
  obtain ⟨values, hvalues⟩ := h.exists_bound
  refine FirstOrder.bind_moved h.bound ?_ Body.Admits.nothing
  rw [h.types_split hvalues, List.map_append, List.map_map]
  exact congrArg (· ++ _) (datatypes_of_constants h.reliable_bound hvalues)

theorem OneBagArguments.runOneBag_first {c : Combinator} {g : FirstOrderFunction}
    {xs : List Operand} (h : OneBagArguments g xs) (hc : c.IsOneBag) (hu : c.UsesReturns g.returns) :
    EvaluatesFirst c.id 1 xs
      (fun ws r events => ∃ before b after, ws = aroundBag before b after ∧
        c.Concludes g (b.values.map fun v => before ++ v :: after) r events)
      (runOneBag c g xs) := by
  have hgiven : EvaluatesFirst c.id 1 xs (MadeOf (List.map Slot.ofValue))
      (evaluateSlots c.id (1 + ([] : List Operand).length) xs) :=
    evaluateSlots_first h.reliable h.noFunction c.id 1
  refine (hgiven.bind fun ws hws => ?_).of_alike h.alike_unbound
  have hfits := fits_of_answers h.reliable h.noFunction hws
  have htypes := fun v hv => types_fill hfits (elements_of_one_bag hfits h.oneBag v hv)
  -- the values are those that have been declared: one bag, and no function
  obtain ⟨before, b, after, rfl⟩ :=
    exists_aroundBag hfits h.oneBag (no_function_of_answers h.reliable h.noFunction hws)
  rw [map_ofValue_aroundBag] at htypes ⊢
  simp only [elements_around, fill_around] at htypes
  obtain ⟨r, events, hends, hreports⟩ := reports_conclude hc hu htypes h.bind_types
  exact ⟨r, events, ⟨before, b, after, rfl, hends⟩, hreports⟩

/-! ## Trees -/

namespace Expr

variable {c : Combinator} {g : FirstOrderFunction} {f : Expr} {es : List Expr} {ctx : Option Context}

/-- A call of `any-of`, `all-of` or `map` that has been built evaluates its arguments once each, from
left to right, and fails with the failure of the first that fails, under its position. If none
fails, it calls the function with the values of its arguments, each element of the bag in its place,
and concludes from these calls. -/
theorem oneBag_concludes (hc : c.IsOneBag) (hf : f.value? = some (.function (.firstOrder g)))
    (hes : ∀ e ∈ es, ∀ w, e.answer ctx = .ok w → w.HasType e.datatype)
    (hb : c.bind ((f :: es).map static) = .ok ()) :
    EvaluatesFirst c.id 1 (es.map (operand ctx))
      (fun ws r events => ∃ before b after, ws = aroundBag before b after ∧
        c.Concludes g (b.values.map fun v => before ++ v :: after) r events)
      ((Expr.apply (.combinator c) (f :: es)).eval ctx) := by
  obtain ⟨-, g', hg', hu, -, -, -⟩ := Combinator.bind_eq_ok_iff.1 hb
  cases hf.symm.trans hg'
  rw [eval_oneBag hc hf]
  exact (oneBagArguments_of_bind hc hf hes hb).runOneBag_first hc hu

/-- The texts of a bag between two others are joined to them, one by one. -/
theorem oneBag_concludes_concatenate :
    ∃ f text texts : Expr, f.value? = some (.function (.firstOrder Library.concatenate)) ∧
      Combinator.map.bind ([f, text, texts, text].map static) = .ok () ∧
      EvaluatesFirst Combinator.map.id 1 ([text, texts, text].map (operand none))
        (fun ws r events => ∃ before b after, ws = aroundBag before b after ∧
          Combinator.map.Concludes Library.concatenate
            (b.values.map fun v => before ++ v :: after) r events)
        ((Expr.apply (.combinator .map) [f, text, texts, text]).eval none) := by
  let f : Expr := .constant (.function (.firstOrder Library.concatenate))
  let text : Expr := .constant (.single (.string "b"))
  let texts : Expr := .constant (.bag (.ofList .string [.string "a", .string "b"] (by decide)))
  have hes : ∀ e ∈ [text, texts, text], ∀ w, e.answer none = .ok w → w.HasType e.datatype := by
    rw [List.forall_mem_cons, List.forall_mem_cons, List.forall_mem_singleton]
    exact ⟨by rintro _ ⟨⟩; exact Value.hasType_single _,
      by rintro _ ⟨⟩; exact Value.hasType_bag _,
      by rintro _ ⟨⟩; exact Value.hasType_single _⟩
  exact ⟨f, text, texts, rfl, rfl, oneBag_concludes (f := f) (.inr (.inr rfl)) rfl hes rfl⟩

end Expr

end Xacml
