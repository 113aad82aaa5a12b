/-
Patterns that are compiled beforehand. A call whose pattern is a constant compiles it when it is
built and never evaluates it; any other call evaluates its pattern each time and asks the store for
the compiled form. A text that denotes no pattern is found out when the one call is built and when
the other is evaluated, before the subject is; with a pattern, both end alike, whatever the store
holds.
-/
import Xacml.Proofs.Combinator.Given
import Xacml.Proofs.Combinator.Search
import Xacml.Proofs.Expr.Leaves
import Xacml.Proofs.Pattern.Recency

namespace Xacml

open Eval

/-! ## Subjects -/

/-- Whether a pattern occurs in the subject of a call. -/
def matchSubject (id : String) (operands : List Operand) (given : List AttributeValue)
    (p : Pattern) : Eval Bool := do
  match ← valueAt id operands given 1 with
  | .string s => Eval.ok (p.occursIn s.toList)
  | .anyURI s => Eval.ok (p.occursIn s.toList)
  | v => Eval.fail (.of (.subjectType id v.type))

section Subject

variable {id p : String} {q : Pattern} {operands operands' : List Operand}
  {given given' : List AttributeValue} {c : Pattern.Cache}

theorem runMatching_eq : runMatching id operands given =
    callPattern id operands given >>= matchSubject id operands given := rfl

theorem steady_matchSubject (h : ∀ x ∈ operands, x.eval.Steady) (q : Pattern) :
    (matchSubject id operands given q).Steady := by
  have hoperands : List.Forall₂ Likeness.faithful.AlikeOperand operands operands :=
    List.forall₂_same.2 fun x hx => ⟨rfl, h x hx⟩
  exact (Likeness.alike_valueAt hoperands given 1).bind fun v => by cases v <;> exact steady_done _

/-- What fails with the subject names the function, and so is no failure of a pattern. -/
theorem matchSubject_ne_pattern :
    (matchSubject id operands given q c).result ≠ .error (.of (.pattern p)) := by
  have hvalue : (valueAt id operands given 1).Ensures (fun _ => True) (fun _ => True)
      (· ≠ .of (.pattern p)) := by
    unfold valueAt
    split
    · exact (ensures_trivial _).mapFailure fun e _ h =>
        List.cons_ne_nil _ _ (congrArg Failure.causes h)
    · split
      · exact ensures_ok trivial
      · exact ensures_fail nofun
  have hsubject : (matchSubject id operands given q).Ensures (fun _ => True) (fun _ => True)
      (· ≠ .of (.pattern p)) :=
    hvalue.bind fun v _ => by
      cases v with
      | string s | anyURI s => exact ensures_ok trivial
      | _ => exact ensures_fail nofun
  exact fun h => (settles_iff.1 (hsubject c).1).2 _ h rfl

/-- Calls with the same second argument have the same subject. -/
theorem matchSubject_congr
    (h : (callArguments operands given)[1]? = (callArguments operands' given')[1]?) :
    matchSubject id operands given = matchSubject id operands' given' := by
  funext q
  rw [matchSubject, valueAt_congr id h]
  rfl

/-! ## Patterns -/

/-- With a constant pattern there is only the subject to evaluate. -/
theorem runMatching_constant (hp : constantPattern? (operands.map Operand.toStatic) = some p)
    (hq : Pattern.compile? p = some q) :
    runMatching id operands given c = matchSubject id operands given q c := by
  have hpattern : callPattern id operands given = .ok q := by
    unfold callPattern
    rw [hp]
    dsimp only
    rw [hq]
  rw [runMatching_eq, hpattern]
  rfl

variable {x : Eval Value}

/-- A pattern that is evaluated is asked for once it is known. -/
theorem callPattern_evaluated (hnone : constantPattern? (operands.map Operand.toStatic) = none)
    (hx : (callArguments operands given)[0]? = some x)
    (hp : (x c).result = .ok (.single (.string p))) (hc : (x c).cache.Faithful) :
    callPattern id operands given c = match Pattern.compile? p with
      | some q => ⟨.ok q, (x c).cache.use p q, (x c).events⟩
      | none => ⟨.error (.of (.pattern p)), (x c).cache, (x c).events⟩ := by
  have hsingle : x.single c = ⟨.ok (.string p), (x c).cache, (x c).events⟩ := by
    rw [Eval.single, bind_of_ok hp]
    exact congrArg (Outcome.mk _ _) (List.append_nil _)
  have hvalue : valueAt id operands given 0 c = ⟨.ok (.string p), (x c).cache, (x c).events⟩ := by
    rw [valueAt_eq id hx, mapFailure, hsingle]
    rfl
  unfold callPattern
  rw [hnone]
  dsimp only
  rw [bind_of_ok (by rw [hvalue]), hvalue]
  dsimp only
  rw [hc.pattern_eq]
  cases Pattern.compile? p <;> exact congrArg (Outcome.mk _ _) (List.append_nil _)

end Subject

/-! ## Calls -/

namespace Library

variable {version p : String} {subject : AttributeType} {operands : List Static}
  {remaining : List AttributeType}

/-- The datatypes of the arguments that a match takes. -/
theorem datatypes_of_bind_regexpMatch
    (hb : (regexpMatch version subject).bind operands remaining = .ok ()) :
    operands.map Static.datatype ++ remaining.map .value = [.string, .value subject] := by
  obtain ⟨⟨types, hcheck⟩, -⟩ := FirstOrder.bind_eq_ok_iff.1 hb
  exact ((Signature.check_eq_ok_iff (List.cons_ne_nil _ _)).1 hcheck).1

/-- Of a constant pattern it is checked that it is one. -/
theorem bind_regexpMatch_constant
    (h : operands.map Static.datatype ++ remaining.map .value = [.string, .value subject])
    (hp : constantPattern? operands = some p) :
    (regexpMatch version subject).bind operands remaining =
      if (Pattern.compile? p).isSome then .ok () else .error (.pattern p) := by
  have hne : (regexpMatch version subject).signature.parameters ≠ [] := List.cons_ne_nil _ _
  have hcheck : ∃ types, (regexpMatch version subject).signature.check
      (regexpMatch version subject).id (operands.map Static.datatype) remaining = .ok types :=
    ⟨_, (Signature.check_eq_ok_iff hne).2 ⟨h, rfl⟩⟩
  have hbody : (regexpMatch version subject).body.Admits [] := nofun
  obtain hok | ⟨p', -, hp', hnone, herror⟩ := FirstOrder.bind_eq_ok_or hbody hcheck
  · rw [hok, if_pos ((FirstOrder.bind_eq_ok_iff.1 hok).2 p hp)]
  · cases hp.symm.trans hp'
    rw [herror, hnone]
    rfl

end Library

/-- A call of which some arguments may only be given when it is evaluated: the arguments that are
there when it is built, the types declared for the others, and these. -/
structure Call where
  arguments : List Expr
  types : List AttributeType
  given : List AttributeValue

namespace Call

def bind (f : FirstOrderFunction) (call : Call) : Except BuildError Unit :=
  f.bind (call.arguments.map Expr.static) call.types

def run (f : FirstOrderFunction) (ctx : Option Context) (call : Call) : Eval Value :=
  f.run (call.arguments.map (Expr.operand ctx)) call.types call.given

/-- The call with one more argument, in the first place. -/
def cons (e : Expr) (call : Call) : Call := { call with arguments := e :: call.arguments }

/-- The call with one more value that is only given, in the first place. -/
def consGiven (v : AttributeValue) (call : Call) : Call :=
  { call with types := v.type :: call.types, given := v :: call.given }

/-- What `late` has in addition to the arguments of a call, in the first place, is not known when it
is built: `x`, which evaluates to the text `p`. -/
inductive EvaluatesFirst (ctx : Option Context) (p : String) (call : Call) :
    Eval Value → Call → Prop
  | expression {e : Expr} : e.value? = none → e.answer ctx = .ok (.single (.string p)) →
      EvaluatesFirst ctx p call (e.eval ctx) (call.cons e)
  | given : call.arguments = [] →
      EvaluatesFirst ctx p call (.ok (.single (.string p))) (call.consGiven (.string p))

variable {ctx : Option Context} {p version : String} {subject : AttributeType} {k : Expr}
  {call late : Call} {x : Eval Value} {cache cache' : Pattern.Cache}

theorem static_operands (call : Call) :
    (call.arguments.map (Expr.operand ctx)).map Operand.toStatic =
      call.arguments.map Expr.static := by
  rw [List.map_map]
  rfl

theorem run_regexpMatch (call : Call) (cache : Pattern.Cache) :
    let f := Library.regexpMatch version subject
    let matching := runMatching f.id (call.arguments.map (Expr.operand ctx)) call.given
    call.run f ctx cache =
      ⟨(matching cache).result.map .ofBool, (matching cache).cache, (matching cache).events⟩ :=
  map_apply (runMatching _ _ call.given) Value.ofBool cache

namespace EvaluatesFirst

section Late

variable (h : call.EvaluatesFirst ctx p x late)
include h

theorem arguments : callArguments (late.arguments.map (Expr.operand ctx)) late.given =
    x :: callArguments (call.arguments.map (Expr.operand ctx)) call.given := by
  cases h with
  | expression => rfl
  | given hnone => rw [consGiven, hnone]; rfl

theorem constantPattern?_eq : constantPattern? (late.arguments.map Expr.static) = none := by
  cases h with
  | expression hvalue _ =>
    rw [constantPattern?, cons, List.map_cons, List.head?_cons, Option.bind_some, Expr.static,
      hvalue]
  | given hnone => rw [consGiven, hnone]; rfl

theorem steady : x.Steady := by
  cases h with
  | expression => exact Expr.steady ctx _
  | given => exact steady_ok _

theorem answer : x.answer = .ok (.single (.string p)) := by
  cases h with
  | expression _ hanswer => exact hanswer
  | given => rfl

/-- With a constant in the first place the arguments are of the same datatypes. -/
theorem datatypes (hk : k.value? = some (.single (.string p)))
    (htypes : (late.arguments.map Expr.static).map Static.datatype ++ late.types.map .value =
      [.string, .value subject]) :
    ((call.cons k).arguments.map Expr.static).map Static.datatype ++ call.types.map .value =
      [.string, .value subject] := by
  have hdatatype : k.static.datatype = .string := Expr.datatype_of_value? hk
  rw [cons, List.map_cons, List.map_cons, hdatatype]
  cases h with
  | expression => exact congrArg (_ :: ·) (List.cons.inj htypes).2
  | given hnone =>
    rw [consGiven, hnone] at htypes
    rw [hnone]
    exact htypes

end Late

section Run

variable (h : call.EvaluatesFirst ctx p x late) (hc : cache.Faithful)
include h hc

theorem callPattern_eq (id : String) :
    callPattern id (late.arguments.map (Expr.operand ctx)) late.given cache =
      match Pattern.compile? p with
        | some q => ⟨.ok q, (x cache).cache.use p q, (x cache).events⟩
        | none => ⟨.error (.of (.pattern p)), (x cache).cache, (x cache).events⟩ := by
  refine callPattern_evaluated (late.static_operands ▸ h.constantPattern?_eq) ?_ ?_
    (h.steady.faithful hc)
  · rw [h.arguments]
    rfl
  · rw [h.steady.result_eq hc, h.answer]

/-- Without a pattern, nothing more is evaluated. -/
theorem runMatching_refused (id : String) (hq : Pattern.compile? p = none) :
    runMatching id (late.arguments.map (Expr.operand ctx)) late.given cache =
      ⟨.error (.of (.pattern p)), (x cache).cache, (x cache).events⟩ := by
  have hpattern := h.callPattern_eq hc id
  rw [hq] at hpattern
  rw [runMatching_eq, bind_of_error (by rw [hpattern]), hpattern]

/-- With a pattern, the subject is the same as that of the call with the constant. -/
theorem runMatching_accepted (id : String) {q : Pattern} (hq : Pattern.compile? p = some q)
    (k : Expr) :
    let subject := matchSubject id ((call.cons k).arguments.map (Expr.operand ctx)) call.given q
    let left := (x cache).cache.use p q
    runMatching id (late.arguments.map (Expr.operand ctx)) late.given cache =
      ⟨(subject left).result, (subject left).cache, (x cache).events ++ (subject left).events⟩ := by
  have hsubject : matchSubject id (late.arguments.map (Expr.operand ctx)) late.given =
      matchSubject id ((call.cons k).arguments.map (Expr.operand ctx)) call.given := by
    refine matchSubject_congr ?_
    rw [h.arguments]
    rfl
  have hpattern := h.callPattern_eq hc id
  rw [hq] at hpattern
  rw [runMatching_eq, bind_of_ok (by rw [hpattern]), hpattern, hsubject]

end Run

end EvaluatesFirst

/-! ## Agreement -/

/-- How a call with a constant pattern compares with one whose pattern is evaluated. The one was
built with the result `built` and runs `early`; the other runs `late`, with the `events` of its
pattern first. -/
structure PatternsAgree (p : String) (built : Except BuildError Unit) (events : List Event)
    (early late : Outcome Value) : Prop where
  /-- The one is refused just if the other fails because of the pattern. -/
  refused_iff : built = .error (.pattern p) ↔ late.result = .error (.of (.pattern p))
  /-- Then there is none, the failure is a syntax error, and nothing else has been evaluated. -/
  refused : built = .error (.pattern p) → Pattern.compile? p = none ∧
    (Failure.of (.pattern p)).status = .syntaxError ∧ late.events = events
  /-- If there is a pattern, both calls are there, and end in the same answer or failure. -/
  accepted : (Pattern.compile? p).isSome = true → built = .ok () ∧ early.result = late.result ∧
    late.events = events ++ early.events

/-- A pattern that is a constant and one that is evaluated agree, whatever the subject is and
whatever the stores hold. -/
theorem precompiled_agrees (hk : k.value? = some (.single (.string p)))
    (h : call.EvaluatesFirst ctx p x late)
    (hb : late.bind (Library.regexpMatch version subject) = .ok ())
    (hc : cache.Faithful) (hc' : cache'.Faithful) :
    let f := Library.regexpMatch version subject
    PatternsAgree p ((call.cons k).bind f) (x cache').events ((call.cons k).run f ctx cache)
      (late.run f ctx cache') := by
  intro f
  have hconstant : constantPattern? ((call.cons k).arguments.map Expr.static) = some p := by
    rw [constantPattern?, cons, List.map_cons, List.head?_cons, Option.bind_some, Expr.static, hk]
  have hbuilt : (call.cons k).bind f =
      if (Pattern.compile? p).isSome then .ok () else .error (.pattern p) :=
    Library.bind_regexpMatch_constant (h.datatypes hk (Library.datatypes_of_bind_regexpMatch hb))
      hconstant
  rw [hbuilt, run_regexpMatch, run_regexpMatch]
  cases hq : Pattern.compile? p with
  | none =>
    rw [h.runMatching_refused hc' f.id hq]
    refine ⟨⟨fun _ => rfl, fun _ => rfl⟩, fun _ => ⟨hq, rfl, rfl⟩, fun hsome => ?_⟩
    rw [hq] at hsome
    cases hsome
  | some q =>
    rw [h.runMatching_accepted hc' f.id hq k,
      runMatching_constant ((call.cons k).static_operands ▸ hconstant) hq]
    -- what is left is the subject, evaluated from two stores that are both faithful
    have hoperands : ∀ o ∈ (call.cons k).arguments.map (Expr.operand ctx), o.eval.Steady :=
      List.forall_mem_map.2 fun e _ => e.steady ctx
    have hsteady : (matchSubject f.id _ call.given q).Steady := steady_matchSubject hoperands q
    have hleft := (h.steady.faithful hc').use hq
    obtain ⟨hresult, -, hevents⟩ := hsteady cache ((x cache').cache.use p q) ⟨hc, hleft⟩
    refine ⟨⟨fun h => ?_, fun hfails => ?_⟩, fun h => ?_, fun _ => ⟨rfl, ?_, ?_⟩⟩
    · cases h
    · exact absurd (map_ofBool_eq_error.1 hfails) matchSubject_ne_pattern
    · cases h
    · exact congrArg (Except.map Value.ofBool) hresult
    · exact congrArg (_ ++ ·) hevents.symm

/-- A text from outside as a pattern, for a subject that is given when the call is evaluated, from a
store that has been used. -/
theorem precompiled_agrees_supplied :
    ∃ (k : Expr) (call late : Call) (x : Eval Value) (cache : Pattern.Cache),
      k.value? = some (.single (.string "b")) ∧ call.EvaluatesFirst none "b" x late ∧
      late.bind (Library.regexpMatch "1.0" .string) = .ok () ∧ cache.Faithful ∧
      (Pattern.compile? "b").isSome = true ∧
      PatternsAgree "b" ((call.cons k).bind (Library.regexpMatch "1.0" .string))
        (x cache).events ((call.cons k).run (Library.regexpMatch "1.0" .string) none (.empty 0))
        (late.run (Library.regexpMatch "1.0" .string) none cache) := by
  let k : Expr := .constant (.single (.string "b"))
  let pattern : Expr :=
    .leaf (.supplied ⟨"pattern", .string, fun _ => .ok (.single (.string "b"))⟩)
  let call : Call := ⟨[], [.string], [.string "abc"]⟩
  have h : call.EvaluatesFirst none "b" (pattern.eval none) (call.cons pattern) :=
    .expression rfl rfl
  have hb : (call.cons pattern).bind (Library.regexpMatch "1.0" .string) = .ok () := rfl
  have hcache := Pattern.Cache.faithful_after 1 ["a", "b"]
  exact ⟨k, call, _, _, _, rfl, h, hb, hcache, by cbv,
    precompiled_agrees rfl h hb (Pattern.Cache.faithful_empty 0) hcache⟩

end Call

end Xacml
