/-
`any-of` is `any-of-any` with one bag. The one binds constants and puts each element in the place of
the bag; the other binds nothing and goes through every combination of its arguments' values. With
one bag there is one combination for each of its elements, in their order, so that both evaluate the
same arguments, call the function with the same values, and stop at the same point.
-/
import Xacml.Proofs.Combinator.Split

namespace Xacml

open Eval
open Likeness (faithful)

/-! ## Combinations with one bag -/

/-- There is one combination for each element. -/
theorem combinations_contributed {xs : List Operand} {slots : List Slot} (h : SlotsFit slots xs)
    (hone : xs.countP (·.datatype.isBag) = 1) :
    Odometer.combinations (slots.map Slot.contributed) =
      (Slot.elements slots).map (Slot.fill slots) := by
  obtain ⟨before, b, after, rfl⟩ := h.exists_around hone
  have hcontributed : (Slot.around before b after).map Slot.contributed =
      before.map ([·]) ++ b.values :: after.map ([·]) := by
    rw [Slot.around, List.map_append, List.map_cons, List.map_map, List.map_map]
    rfl
  rw [hcontributed, Odometer.combinations_around, elements_around]
  exact List.map_congr_left fun v _ => (fill_around before after b v).symm

/-! ## Calls -/

/-- The same failure, but for the combinator that is named in the frame of an argument. -/
inductive SameCause (c c' : Combinator) : Failure → Failure → Prop
  | same (e : Failure) : SameCause c c' e e
  | argument (index : Nat) (cause : Failure) :
      SameCause c c' (.inArgument c.id index cause) (.inArgument c'.id index cause)

section Calls

variable {g : FirstOrderFunction} {xs : List Operand}

/-- A test that answers does so whoever asks. -/
theorem match_subTest (hg : g ∈ Library.firstOrder) (hr : g.returns = .boolean)
    {types : List AttributeType} (hb : g.bind [] types = .ok ()) {vs : List AttributeValue}
    (ht : vs.map AttributeValue.type = types) (id id' : String) :
    faithful.Match Eq Eq (subTest id g [] types vs) (subTest id' g [] types vs) := by
  have hcall := subCall_ensures [] hg (List.forall_mem_nil _) (List.forall_mem_nil _) hb ht
  have hself : faithful.Alike (subCall g [] types vs) (subCall g [] types vs) :=
    Likeness.alike_subCall .nil vs
  refine (hself.ensuring hcall).bind ?_
  rintro v _ ⟨rfl, htype⟩
  rw [hr] at htype
  obtain ⟨b, rfl⟩ := htype.eq_ofBool
  exact faithful.match_ok rfl

/-- With one bag and nothing bound, both combinators do the same. -/
theorem OneBagCall.match_everyCombination (h : OneBagCall g xs) (hr : g.returns = .boolean)
    (hb : g.bind [] (xs.filterMap (·.toStatic.element?)) = .ok ()) :
    faithful.Match (fun v w => v = w ∧ ∃ b, v = .ofBool b) (SameCause .anyOf .anyOfAny)
      (runSplit .anyOf g [] xs) (runEveryCombination .anyOfAny g xs) := by
  rw [runEveryCombination_eq]
  refine (match_slots_domains _ _ .argument h.reliable h.noFunction 1).bind ?_
  rintro slots _ ⟨rfl, hfits⟩
  rw [combinations_contributed hfits h.oneBag, seek_map]
  have htest (e) (he : e ∈ Slot.elements slots) :=
    match_subTest h.library hr hb (types_fill hfits (elements_of_one_bag hfits h.oneBag e he))
      Combinator.anyOf.id Combinator.anyOfAny.id
  have hsearch := (Likeness.match_seek (d := true) htest).weaken (F := SameCause .anyOf .anyOfAny) .same
  rw [← any_eq_seek] at hsearch
  refine hsearch.bind ?_
  rintro b _ rfl
  exact faithful.match_pure ⟨rfl, b, rfl⟩

end Calls

/-! ## Trees -/

namespace Expr

variable {g : FirstOrderFunction} {f : Expr} {es : List Expr} {ctx : Option Context}

theorem eval_everyCombination (hf : f.value? = some (.function (.firstOrder g))) :
    (Expr.apply (.combinator .anyOfAny) (f :: es)).eval ctx =
      runEveryCombination .anyOfAny g (es.map (operand ctx)) := by
  have hoperand : f.operand ctx = ⟨⟨f.datatype, some (.function (.firstOrder g))⟩, f.eval ctx⟩ := by
    rw [operand, static, hf]
  rw [eval_apply, List.map_cons, hoperand]
  rfl

/-- If both `any-of` and `any-of-any` can be built from a list of arguments, the same happens in both
from any faithful stores: the arguments are evaluated, and the function is called with the same
values in the same order. They end in the same boolean or in the same failure, except that each
names itself if an argument has failed. -/
theorem anyOf_agrees_anyOfAny (hg : g ∈ Library.firstOrder)
    (hf : f.value? = some (.function (.firstOrder g)))
    (hes : ∀ e ∈ es, ∀ w, e.answer ctx = .ok w → w.HasType e.datatype)
    (hb : Combinator.anyOf.bind ((f :: es).map static) = .ok ())
    (hb' : Combinator.anyOfAny.bind ((f :: es).map static) = .ok ())
    {cache cache' : Pattern.Cache} (hc : cache.Faithful) (hc' : cache'.Faithful) :
    let one := (Expr.apply (.combinator .anyOf) (f :: es)).eval ctx cache
    let every := (Expr.apply (.combinator .anyOfAny) (f :: es)).eval ctx cache'
    one.events = every.events ∧
      Matched (fun v w => v = w ∧ ∃ b, v = .ofBool b) (SameCause .anyOf .anyOfAny) one.result
        every.result := by
  have hcall : OneBagCall g (es.map (operand ctx)) := oneBagCall_of_bind (.inl rfl) hg hf hes hb
  obtain ⟨-, g', hg', hr, -, -, hbound⟩ := Combinator.bind_eq_ok_iff.1 hb'
  cases hf.symm.trans hg'
  have hstatic : es.map static = (es.map (operand ctx)).map (·.toStatic) := by
    rw [List.map_map]
    rfl
  change g.bind [] ((es.map static).filterMap Static.element?) = .ok () at hbound
  rw [hstatic, List.filterMap_map] at hbound
  obtain ⟨hresult, -, hevents⟩ := hcall.alike_unbound cache cache ⟨hc, hc⟩
  obtain ⟨hmatched, -, hevents'⟩ := hcall.match_everyCombination hr hbound cache cache' ⟨hc, hc'⟩
  dsimp only
  rw [eval_oneBag (.inl rfl) hf, eval_everyCombination hf, hresult]
  exact ⟨hevents.trans hevents', hmatched⟩

/-- A text among two others. -/
theorem anyOf_agrees_equal :
    ∃ f text texts : Expr, f.value? = some (.function (.firstOrder (Library.equal .string))) ∧
      Combinator.anyOf.bind ([f, text, texts].map static) = .ok () ∧
      Combinator.anyOfAny.bind ([f, text, texts].map static) = .ok () ∧
      let one := (Expr.apply (.combinator .anyOf) [f, text, texts]).eval none (.empty 0)
      let every := (Expr.apply (.combinator .anyOfAny) [f, text, texts]).eval none (.empty 0)
      one.events.length = 4 ∧ one.events = every.events ∧
        Matched (fun v w => v = w ∧ ∃ b, v = .ofBool b) (SameCause .anyOf .anyOfAny) one.result
          every.result := by
  let f : Expr := .constant (.function (.firstOrder (Library.equal .string)))
  let text : Expr := .constant (.single (.string "b"))
  let texts : Expr := .constant (.bag (.ofList .string [.string "a", .string "b"] (by decide)))
  have hg : Library.equal .string ∈ Library.firstOrder := List.mem_cons_self
  have hes : ∀ e ∈ [text, texts], ∀ w, e.answer none = .ok w → w.HasType e.datatype := by
    rw [List.forall_mem_cons, List.forall_mem_singleton]
    exact ⟨by rintro _ ⟨⟩; exact Value.hasType_single _,
      by rintro _ ⟨⟩; exact Value.hasType_bag _⟩
  have hempty := Pattern.Cache.faithful_empty 0
  exact ⟨f, text, texts, rfl, rfl, rfl, rfl,
    anyOf_agrees_anyOfAny (f := f) hg rfl hes rfl rfl hempty hempty⟩

end Expr

end Xacml
