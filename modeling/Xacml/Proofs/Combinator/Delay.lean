/-
A constant may as well be computed. A combinator of one bag binds the constants that come before the
first argument whose value is not known beforehand, so replacing a constant by an expression that
evaluates to it moves the boundary and with it the positions in every call of the function. The
check accepts what it accepted, for it sees bound and given arguments as one list of types; all that
it can miss is a constant pattern that denotes none. The evaluation ends as it did, for a call with
bound constants is alike to one that is given everything.
-/
import Xacml.Proofs.Combinator.Split

namespace Xacml

open Eval
open Likeness (faithful)

/-! ## Results alone -/

/-- Runs from faithful stores, of which only the results count. -/
def Likeness.silent : Likeness where
  caches := faithful.caches
  logs _ _ := True
  request := faithful.request
  nil := trivial
  append _ _ := trivial
  own _ := trivial

section Results

open Likeness (silent)

variable {c : Combinator} {g : FirstOrderFunction} {xs ys : List Operand}

theorem alike_of_answer {α : Type} {x y : Eval α} (hx : x.Steady) (hy : y.Steady)
    (h : x.answer = y.answer) : silent.Alike x y := by
  intro c c' hc
  rw [hx.result_eq hc.1, hy.result_eq hc.2, h]
  exact ⟨rfl, ⟨hx.faithful hc.1, hy.faithful hc.2⟩, trivial⟩

/-- Operands of one datatype with the same answer; the value of one may be known and that of the
other not. -/
structure Operand.SameAnswer (x y : Operand) : Prop where
  datatype : y.datatype = x.datatype
  answer : y.eval.answer = x.eval.answer

/-- An operand of which only the datatype is known beforehand. -/
def Operand.forget (x : Operand) : Operand := ⟨⟨x.datatype, none⟩, x.eval⟩

theorem evaluateSlots_forget (id : String) (index : Nat) :
    evaluateSlots id index (xs.map Operand.forget) = evaluateSlots id index xs := by
  induction xs generalizing index with
  | nil => rfl
  | cons x rest ih =>
    rw [List.map_cons, evaluateSlots, evaluateSlots, ih]
    rfl

/-- Where nothing is bound, no use is made of values that are known beforehand. -/
theorem runSplit_forget (xs : List Operand) : runSplit c g [] (xs.map Operand.forget) = runSplit c g [] xs := by
  rw [runSplit, runSplit, evaluateSlots_forget, List.filterMap_map]
  rfl

theorem alike_runSplit (hx : ∀ x ∈ xs, x.eval.Steady) (hy : ∀ y ∈ ys, y.eval.Steady)
    (h : List.Forall₂ Operand.SameAnswer xs ys) :
    silent.Alike (runSplit c g [] xs) (runSplit c g [] ys) := by
  have halike : List.Forall₂ silent.AlikeOperand (xs.map Operand.forget) (ys.map Operand.forget) := by
    induction h with
    | nil => exact .nil
    | @cons x y xs ys hxy _ ih =>
      rw [List.forall_mem_cons] at hx hy
      refine .cons ⟨?_, ?_⟩ (ih hx.2 hy.2)
      · exact congrArg (Static.mk · none) hxy.datatype.symm
      · exact alike_of_answer hx.1 hy.1 hxy.answer.symm
  rw [← runSplit_forget xs, ← runSplit_forget ys, runSplit, runSplit,
    Likeness.filterMap_element? halike]
  refine (Likeness.alike_evaluateSlots halike _).bind fun slots => ?_
  exact alike_conclude rfl fun e _ => Likeness.alike_subCall .nil _

/-- Calls of one bag whose operands have the same answers have the same answer. -/
theorem OneBagCall.answer_congr (hx : OneBagCall g xs) (hy : OneBagCall g ys)
    (h : List.Forall₂ Operand.SameAnswer xs ys) :
    (runOneBag c g xs).answer = (runOneBag c g ys).answer := by
  have hempty := Pattern.Cache.faithful_empty 0
  have hsame := alike_runSplit (c := c) (g := g) (fun x h => (hx.reliable x h).steady)
    (fun y h => (hy.reliable y h).steady) h
  exact ((answer_eq_of_alike hx.alike_unbound).trans (hsame _ _ ⟨hempty, hempty⟩).1).trans
    (answer_eq_of_alike hy.alike_unbound).symm

end Results

/-! ## Checks -/

namespace Static

/-- What is known of an argument that stays, or of one that is replaced by another of its datatype
whose value is not known. -/
structure Hides (s s' : Static) : Prop where
  datatype : s'.datatype = s.datatype
  value? : s'.value? = s.value? ∨ s'.value? = none

variable {ss ss' : List Static}

theorem datatypes_of_hides (h : List.Forall₂ Hides ss ss') :
    ss'.map Static.datatype = ss.map Static.datatype := by
  induction h with
  | nil => rfl
  | cons hs _ ih => rw [List.map_cons, List.map_cons, hs.datatype, ih]

theorem element?_of_hides (h : List.Forall₂ Hides ss ss') :
    ss'.filterMap element? = ss.filterMap element? := by
  induction h with
  | nil => rfl
  | cons hs _ ih => rw [List.filterMap_cons, List.filterMap_cons, element?, element?, hs.datatype, ih]

/-- A constant pattern that is bound was bound before. -/
theorem constantPattern?_of_hides (h : List.Forall₂ Hides ss ss') {p : String}
    (hp : constantPattern? (ss'.takeWhile isBindable) = some p) :
    constantPattern? (ss.takeWhile isBindable) = some p := by
  cases h with
  | nil => exact hp
  | @cons s s' ss ss' hs _ =>
    rw [List.takeWhile_cons] at hp ⊢
    rcases hs.value? with hvalue | hvalue
    · have hbindable : s.isBindable = s'.isBindable := by
        rw [isBindable, isBindable, hs.datatype, hvalue]
      rw [hbindable]
      split at hp
      · rename_i hb
        rw [if_pos hb]
        simpa [constantPattern?, hvalue] using hp
      · cases hp
    · rw [isBindable, hvalue, Option.isSome_none, Bool.and_false, if_neg Bool.false_ne_true] at hp
      cases hp

/-- Bound and given arguments are one list of types, wherever they are split. -/
theorem datatypes_of_split (h : ∀ s ∈ ss, s.datatype ≠ .function) :
    (ss.takeWhile isBindable).map Static.datatype ++
        ((ss.dropWhile isBindable).filterMap element?).map .value =
      (ss.filterMap element?).map .value := by
  have hbound : (ss.takeWhile isBindable).map Static.datatype =
      ((ss.takeWhile isBindable).filterMap element?).map .value := by
    have hvalue : ∀ s ∈ ss.takeWhile isBindable, ∃ t, s.datatype = .value t := by
      intro s hs
      have hbindable := List.mem_takeWhile_imp hs
      have hfunction := h s ((List.takeWhile_sublist _).subset hs)
      cases hdt : s.datatype with
      | value t => exact ⟨t, rfl⟩
      | bag t => simp [isBindable, hdt, Datatype.isBag] at hbindable
      | function => exact absurd hdt hfunction
    generalize ss.takeWhile isBindable = bound at hvalue
    induction bound with
    | nil => rfl
    | cons s rest ih =>
      rw [List.forall_mem_cons] at hvalue
      obtain ⟨⟨t, ht⟩, hrest⟩ := hvalue
      rw [List.map_cons, List.filterMap_cons, element?, ht, ih hrest]
      rfl
  rw [hbound, ← List.map_append, ← List.filterMap_append, List.takeWhile_append_dropWhile]

/-- The constant pattern that is bound is the first argument. -/
theorem head?_of_constantPattern? {p : String}
    (hp : constantPattern? (ss.takeWhile isBindable) = some p) :
    ss.head?.bind (·.value?) = some (.single (.string p)) := by
  cases ss with
  | nil => cases hp
  | cons s rest =>
    rw [List.takeWhile_cons] at hp
    split at hp
    · unfold constantPattern? at hp
      rw [List.head?_cons, Option.bind_some] at hp ⊢
      split at hp
      · rename_i hs
        cases hp
        exact hs
      · cases hp
    · cases hp

end Static

namespace Combinator

variable {c : Combinator} {g : FirstOrderFunction} {first : Static} {ss ss' : List Static}

/-- The checks of the arguments themselves see datatypes only. -/
theorem checks_of_hides (hc : c.IsOneBag) (h : List.Forall₂ Static.Hides ss ss') :
    c.arity.admits (ss'.length + 1) = c.arity.admits (ss.length + 1) ∧
      ((∀ s ∈ ss', s.datatype ≠ .function) ↔ ∀ s ∈ ss, s.datatype ≠ .function) ∧
      (c.AdmitsBags ss' ↔ c.AdmitsBags ss) := by
  have hdatatypes := Static.datatypes_of_hides h
  refine ⟨by rw [h.length_eq], ?_, ?_⟩
  · rw [← List.forall_mem_map (P := (· ≠ Datatype.function)), hdatatypes, List.forall_mem_map]
  · have hcount := congrArg (List.countP Datatype.isBag) hdatatypes
    rw [List.countP_map, List.countP_map] at hcount
    rw [admitsBags_of_oneBag hc, admitsBags_of_oneBag hc]
    exact iff_of_eq (congrArg (· = 1) hcount)

/-- However a combinator splits its operands, its function sees the types of their elements. -/
theorem callTypes_eq (hd : ∀ s ∈ ss, s.datatype ≠ .function) :
    (c.boundPart ss).map Static.datatype ++
        ((c.givenPart ss).filterMap Static.element?).map .value =
      (ss.filterMap Static.element?).map .value := by
  cases c with
  | anyOf | allOf | map => exact Static.datatypes_of_split hd
  | _ => rfl

/-- The function is called with the same types. -/
theorem callTypes_of_hides (hc : c.IsOneBag) (h : List.Forall₂ Static.Hides ss ss')
    (hd : ∀ s ∈ ss, s.datatype ≠ .function) :
    (c.boundPart ss).map Static.datatype ++
        ((c.givenPart ss).filterMap Static.element?).map .value =
      (c.boundPart ss').map Static.datatype ++
        ((c.givenPart ss').filterMap Static.element?).map .value := by
  have hd' := (checks_of_hides hc h).2.1.2 hd
  rw [callTypes_eq hd, callTypes_eq hd', Static.element?_of_hides h]

/-- What can be built can be built with less known beforehand. -/
theorem bind_of_hides (hc : c.IsOneBag) (h : List.Forall₂ Static.Hides ss ss')
    (hb : c.bind (first :: ss) = .ok ()) : c.bind (first :: ss') = .ok () := by
  obtain ⟨hn, g, hg, hu, hd, hbags, hbound⟩ := bind_eq_ok_iff.1 hb
  obtain ⟨hn', hd', hbags'⟩ := checks_of_hides hc h
  refine bind_eq_ok_iff.2 ⟨hn'.trans hn, g, hg, hu, hd'.2 hd, hbags'.2 hbags, ?_⟩
  refine FirstOrder.bind_moved hbound (callTypes_of_hides hc h hd) fun hbody => ?_
  rw [boundPart_of_oneBag hc] at hbody ⊢
  unfold Body.Admits at hbody ⊢
  cases hg : g.body with
  | matching =>
    rw [hg] at hbody
    exact fun p hp => hbody p (Static.constantPattern?_of_hides h hp)
  | declaredOnly => rwa [hg] at hbody
  | _ => trivial

/-- What can only be built with less known beforehand has a constant pattern that denotes none. -/
theorem bind_or_of_hides (hc : c.IsOneBag) (h : List.Forall₂ Static.Hides ss ss')
    (hg : first.value? = some (.function (.firstOrder g))) (hb : c.bind (first :: ss') = .ok ()) :
    c.bind (first :: ss) = .ok () ∨
      ∃ p, g.body = .matching ∧ ss.head?.bind (·.value?) = some (.single (.string p)) ∧
        Pattern.compile? p = none ∧ c.bind (first :: ss) = .error (.pattern p) := by
  obtain ⟨hn, g', hg', hu, hd, hbags, hbound⟩ := bind_eq_ok_iff.1 hb
  cases hg.symm.trans hg'
  obtain ⟨hn', hd', hbags'⟩ := checks_of_hides hc h
  rw [hn'] at hn
  rw [hd'] at hd
  rw [hbags'] at hbags
  rw [bind_eq_of_checks hn hg hu hd hbags]
  obtain ⟨htypes, hbody⟩ := FirstOrder.bind_eq_ok_iff.1 hbound
  rw [← FirstOrder.check_moved (callTypes_of_hides hc h hd)] at htypes
  refine (FirstOrder.bind_eq_ok_or hbody.nothing htypes).imp_right ?_
  rintro ⟨p, hmatching, hp, hcompile, he⟩
  rw [boundPart_of_oneBag hc] at hp
  exact ⟨p, hmatching, Static.head?_of_constantPattern? hp, hcompile, he⟩

end Combinator

/-! ## Trees -/

namespace Expr

/-- An argument that is kept, or a constant single value that is replaced by an expression of its
datatype that is no constant and always evaluates to the same value. -/
inductive Delays : Expr → Expr → Prop
  | kept (e : Expr) : Delays e e
  | delayed {e e' : Expr} {v : AttributeValue} : e.value? = some (.single v) → e'.value? = none →
      e'.datatype = e.datatype → (∀ ctx, e'.answer ctx = .ok (.single v)) → Delays e e'

variable {c : Combinator} {g : FirstOrderFunction} {f e e' : Expr} {es es' : List Expr}

theorem Delays.hides (h : Delays e e') : Static.Hides e.static e'.static := by
  cases h with
  | kept => exact ⟨rfl, .inl rfl⟩
  | delayed _ hvalue hdatatype _ => exact ⟨hdatatype, .inr hvalue⟩

theorem Delays.sameAnswer (h : Delays e e') (ctx : Option Context) :
    (e.operand ctx).SameAnswer (e'.operand ctx) := by
  cases h with
  | kept => exact ⟨rfl, rfl⟩
  | delayed hvalue _ hdatatype hanswer =>
    refine ⟨hdatatype, (hanswer ctx).trans ?_⟩
    exact (congrArg Eval.answer (eval_of_value? hvalue)).symm

theorem Delays.typed (h : Delays e e') {ctx : Option Context}
    (he : ∀ w, e.answer ctx = .ok w → w.HasType e.datatype) :
    ∀ w, e'.answer ctx = .ok w → w.HasType e'.datatype := by
  have hdatatype : e'.datatype = e.datatype := (h.sameAnswer ctx).datatype
  intro w hw
  rw [hdatatype]
  exact he w ((h.sameAnswer ctx).answer.symm.trans hw)

theorem hides_of_delays (h : List.Forall₂ Delays es es') :
    List.Forall₂ Static.Hides (es.map static) (es'.map static) := by
  rw [List.forall₂_map_left_iff, List.forall₂_map_right_iff]
  exact h.imp fun _ _ => Delays.hides

theorem typed_of_delays {ctx : Option Context} (h : List.Forall₂ Delays es es')
    (hes : ∀ e ∈ es, ∀ w, e.answer ctx = .ok w → w.HasType e.datatype) :
    ∀ e' ∈ es', ∀ w, e'.answer ctx = .ok w → w.HasType e'.datatype := by
  induction h with
  | nil => exact List.forall_mem_nil _
  | cons hd _ ih =>
    rw [List.forall_mem_cons] at hes
    exact List.forall_mem_cons.2 ⟨hd.typed hes.1, ih hes.2⟩

/-- Binding constants early cannot be observed. Constants among the arguments of a combinator of one
bag may be replaced by expressions that evaluate to them: what could be built still can, only a
constant pattern that denotes none is no longer refused, and from whichever faithful stores the two
calls are evaluated, they end in the same result. -/
theorem early_binding_unobservable (hc : c.IsOneBag) (hg : g ∈ Library.firstOrder)
    (hf : f.value? = some (.function (.firstOrder g))) (h : List.Forall₂ Delays es es')
    (hes : ∀ ctx, ∀ e ∈ es, ∀ w, e.answer ctx = .ok w → w.HasType e.datatype) :
    (c.bind ((f :: es).map static) = .ok () → c.bind ((f :: es').map static) = .ok ()) ∧
    (c.bind ((f :: es').map static) = .ok () → c.bind ((f :: es).map static) = .ok () ∨
      ∃ p, g.body = .matching ∧ es.head?.bind value? = some (.single (.string p)) ∧
        Pattern.compile? p = none ∧ c.bind ((f :: es).map static) = .error (.pattern p)) ∧
    (c.bind ((f :: es).map static) = .ok () → ∀ (ctx : Option Context) (cache cache' : Pattern.Cache),
      cache.Faithful → cache'.Faithful →
      ((Expr.apply (.combinator c) (f :: es)).eval ctx cache).result =
        ((Expr.apply (.combinator c) (f :: es')).eval ctx cache').result) := by
  have hhides := hides_of_delays h
  rw [List.map_cons, List.map_cons]
  refine ⟨Combinator.bind_of_hides hc hhides, fun hb => ?_, fun hb ctx cache cache' hcache hcache' => ?_⟩
  · have hor := Combinator.bind_or_of_hides hc hhides hf hb
    rwa [List.head?_map, Option.bind_map] at hor
  · have hcall := oneBagCall_of_bind hc hg hf (hes ctx) hb
    have hcall' := oneBagCall_of_bind hc hg hf (typed_of_delays h (hes ctx))
      (Combinator.bind_of_hides hc hhides hb)
    have hsame : List.Forall₂ Operand.SameAnswer (es.map (operand ctx)) (es'.map (operand ctx)) := by
      rw [List.forall₂_map_left_iff, List.forall₂_map_right_iff]
      exact h.imp fun _ _ hd => hd.sameAnswer ctx
    rw [(steady ctx _).result_eq hcache, (steady ctx _).result_eq hcache',
      eval_oneBag hc hf, eval_oneBag hc hf, hcall.answer_congr hcall' hsame]

/-- A text that is supplied from outside, always the same. -/
def suppliedText (s : String) : Expr :=
  .leaf (.supplied ⟨"text", .string, fun _ => .ok (.single (.string s))⟩)

theorem delays_suppliedText (s : String) :
    Delays (.constant (.single (.string s))) (suppliedText s) :=
  .delayed rfl rfl rfl fun _ => rfl

/-- A text that is looked for among two others, as a constant and supplied from outside. -/
theorem early_binding_equal :
    ∃ f text texts : Expr, f.value? = some (.function (.firstOrder (Library.equal .string))) ∧
      Combinator.anyOf.bind ([f, text, texts].map static) = .ok () ∧
      Combinator.anyOf.bind ([f, suppliedText "b", texts].map static) = .ok () ∧
      ∀ ctx, ((Expr.apply (.combinator .anyOf) [f, text, texts]).eval ctx (.empty 0)).result =
        ((Expr.apply (.combinator .anyOf) [f, suppliedText "b", texts]).eval ctx (.empty 0)).result := by
  let f : Expr := .constant (.function (.firstOrder (Library.equal .string)))
  let text : Expr := .constant (.single (.string "b"))
  let texts : Expr := .constant (.bag (.ofList .string [.string "a", .string "b"] (by decide)))
  have hg : Library.equal .string ∈ Library.firstOrder := List.mem_cons_self
  have hes : ∀ ctx, ∀ e ∈ [text, texts], ∀ w, e.answer ctx = .ok w → w.HasType e.datatype := by
    intro ctx
    rw [List.forall_mem_cons, List.forall_mem_singleton]
    exact ⟨by rintro _ ⟨⟩; exact Value.hasType_single _,
      by rintro _ ⟨⟩; exact Value.hasType_bag _⟩
  have hb : Combinator.anyOf.bind ([f, text, texts].map static) = .ok () := rfl
  have hobserved := early_binding_unobservable (c := .anyOf) (f := f) (.inl rfl) hg rfl
    (.cons (delays_suppliedText "b") (.cons (.kept texts) .nil)) hes
  have hempty := Pattern.Cache.faithful_empty 0
  exact ⟨f, text, texts, rfl, hb, hobserved.1 hb,
    fun ctx => hobserved.2.2 hb ctx _ _ hempty hempty⟩

end Expr

end Xacml
