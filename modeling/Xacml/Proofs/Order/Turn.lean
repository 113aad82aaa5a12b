/-
The order in which a call evaluates its operands. Those whose value is not known beforehand take
turns from left to right: each is evaluated at most once, and none is passed over for one to its
right, although a call may stop before it gets to all of them. What a combinator does for every
element, and every use of a constant, evaluates no leaf. The rules follow the way evaluations are
put together.
-/
import Xacml.Proofs.Evaluation.Alike
import Xacml.Proofs.Typing.Combinator

namespace Xacml

open Eval

variable {α β : Type}

/-- The leaves that were evaluated, in order. -/
def Outcome.visited (o : Outcome α) : List Leaf := o.events.filterMap Event.leaf?

/-- Evaluations take turns: one run of the first, one of the second and so on, up to some point. -/
inductive InTurn : List (Eval Value) → List Leaf → Prop
  | stop (turns : List (Eval Value)) : InTurn turns []
  | next (x : Eval Value) (c : Pattern.Cache) {rest : List (Eval Value)} {leaves : List Leaf} :
      InTurn rest leaves → InTurn (x :: rest) ((x c).visited ++ leaves)

theorem inTurn_nil {leaves : List Leaf} : InTurn [] leaves ↔ leaves = [] :=
  ⟨fun h => by cases h; rfl, fun h => h ▸ .stop []⟩

namespace Eval

/-- No leaf is evaluated. -/
def Quiet (x : Eval α) : Prop := x.Ensures (·.leaf? = none) (fun _ => True) (fun _ => True)

/-- Evaluates the leaves of some of the turns, from the first on. -/
def Within (x : Eval α) (turns : List (Eval Value)) : Prop := ∀ c, InTurn turns (x c).visited

/-- Evaluates the leaves of the turns before `rest`, whether it fails or not. -/
def Spends (x : Eval α) (turns rest : List (Eval Value)) : Prop :=
  ∀ c leaves, InTurn rest leaves → InTurn turns ((x c).visited ++ leaves)

/-! ## Rules -/

section Rules

variable {x : Eval α} {f : α → Eval β} {turns rest : List (Eval Value)}

theorem quiet_iff : x.Quiet ↔ ∀ c, (x c).visited = [] := by
  refine ⟨fun h c => List.filterMap_eq_nil_iff.2 (h c).2, fun h c => ⟨?_, ?_⟩⟩
  · exact settles_iff.2 ⟨fun _ _ => trivial, fun _ _ => trivial⟩
  · exact List.filterMap_eq_nil_iff.1 (h c)

theorem quiet_done (r : Except Failure α) : (done r).Quiet := quiet_iff.2 fun _ => rfl

theorem quiet_note {e : Event} (h : e.leaf? = none) : (note e).Quiet :=
  (ensures_note h).imp (fun _ h => h) fun _ h => h

theorem Quiet.bind (h : x.Quiet) (hf : ∀ a, (f a).Quiet) : (x >>= f).Quiet :=
  Ensures.bind h fun a _ => hf a

theorem Quiet.mapFailure (h : x.Quiet) (g : Failure → Failure) : (x.mapFailure g).Quiet :=
  Ensures.mapFailure h fun _ h => h

theorem within_nil : x.Within [] ↔ x.Quiet := by
  rw [quiet_iff]
  exact forall_congr' fun c => inTurn_nil

theorem Quiet.spends (h : x.Quiet) (turns : List (Eval Value)) : x.Spends turns turns := by
  intro c leaves hleaves
  rw [quiet_iff.1 h c]
  exact hleaves

theorem Spends.within (h : x.Spends turns rest) : x.Within turns := by
  intro c
  have := h c [] (.stop _)
  rwa [List.append_nil] at this

theorem Quiet.within (h : x.Quiet) (turns : List (Eval Value)) : x.Within turns :=
  (h.spends turns).within

theorem visited_bind (x : Eval α) (f : α → Eval β) (c : Pattern.Cache) :
    ((x >>= f) c).visited = (x c).visited ++
      match (x c).result with
      | .ok a => (f a (x c).cache).visited
      | .error _ => [] := by
  rw [bind_apply, andThen]
  cases (x c).result with
  | error e => exact (List.append_nil _).symm
  | ok a => exact List.filterMap_append ..

/-- Goes on with the turns that are left. -/
theorem Spends.bind (h : x.Spends turns rest) (hf : ∀ a, (f a).Within rest) :
    (x >>= f).Within turns := by
  intro c
  rw [visited_bind]
  refine h c _ ?_
  cases (x c).result with
  | error e => exact .stop _
  | ok a => exact hf a _

theorem Quiet.before (h : x.Quiet) (hf : ∀ a, (f a).Within turns) : (x >>= f).Within turns :=
  (h.spends turns).bind hf

theorem visited_bind_quiet (hf : ∀ a, (f a).Quiet) (c : Pattern.Cache) :
    ((x >>= f) c).visited = (x c).visited := by
  rw [visited_bind]
  cases (x c).result with
  | error e => exact List.append_nil _
  | ok a =>
    dsimp only
    rw [quiet_iff.1 (hf a), List.append_nil]

theorem Within.quietly (h : x.Within turns) (hf : ∀ a, (f a).Quiet) : (x >>= f).Within turns := by
  intro c
  rw [visited_bind_quiet hf]
  exact h c

theorem Spends.quietly (h : x.Spends turns rest) (hf : ∀ a, (f a).Quiet) :
    (x >>= f).Spends turns rest := by
  intro c leaves hleaves
  rw [visited_bind_quiet hf]
  exact h c leaves hleaves

theorem Spends.mapFailure (h : x.Spends turns rest) (g : Failure → Failure) :
    (x.mapFailure g).Spends turns rest := h

theorem Spends.attempt (h : x.Spends turns rest) : x.attempt.Spends turns rest := h

theorem Spends.single {x : Eval Value} (h : x.Spends turns rest) : x.single.Spends turns rest :=
  h.quietly fun v => by cases v <;> exact quiet_done _

theorem Spends.bag {x : Eval Value} (h : x.Spends turns rest) : x.bag.Spends turns rest :=
  h.quietly fun v => by cases v <;> exact quiet_done _

end Rules

end Eval

/-! ## Operands -/

/-- The evaluations of the operands whose value is not known. -/
def asked (operands : List Operand) : List (Eval Value) :=
  (operands.filter (!·.value?.isSome)).map (·.eval)

/-- Operands whose value is known evaluate no leaf. -/
def KnownQuiet (operands : List Operand) : Prop :=
  ∀ x ∈ operands, x.value?.isSome = true → x.eval.Quiet

section Operands

variable {x : Operand} {operands : List Operand}

theorem asked_cons_known (h : x.value?.isSome = true) : asked (x :: operands) = asked operands := by
  rw [asked, List.filter_cons_of_neg (by rw [h]; decide)]
  rfl

theorem asked_cons_unknown (h : x.value? = none) :
    asked (x :: operands) = x.eval :: asked operands := by
  rw [asked, List.filter_cons_of_pos (by simp [h])]
  rfl

theorem asked_append (xs ys : List Operand) : asked (xs ++ ys) = asked xs ++ asked ys := by
  rw [asked, List.filter_append, List.map_append]
  rfl

theorem asked_of_known (h : ∀ x ∈ operands, x.value?.isSome = true) : asked operands = [] := by
  rw [asked, List.filter_eq_nil_iff.2 fun x hx => by rw [h x hx]; decide]
  rfl

theorem KnownQuiet.drop (h : KnownQuiet operands) (i : Nat) : KnownQuiet (operands.drop i) :=
  fun x hx => h x (List.mem_of_mem_drop hx)

theorem KnownQuiet.head (h : KnownQuiet (x :: operands)) :
    x.eval.Spends (asked (x :: operands)) (asked operands) := by
  cases hx : x.value? with
  | none =>
    rw [asked_cons_unknown hx]
    exact fun c leaves hleaves => .next x.eval c hleaves
  | some v =>
    have hknown : x.value?.isSome = true := by rw [hx]; rfl
    rw [asked_cons_known hknown]
    exact (h x List.mem_cons_self hknown).spends _

theorem KnownQuiet.tail (h : KnownQuiet (x :: operands)) : KnownQuiet operands := h.drop 1

end Operands

/-! ## Calls of first-order functions -/

section FirstOrder

variable {operands : List Operand} {f : FirstOrderFunction} {id : String}

theorem evaluateArguments_within (h : KnownQuiet operands) (index : Nat) :
    (evaluateArguments f index operands).Within (asked operands) := by
  induction operands generalizing index with
  | nil => exact (quiet_done _).within _
  | cons x rest ih =>
    rw [evaluateArguments]
    split
    · exact (h.head.bag.mapFailure _).bind fun b => (ih h.tail _).quietly fun _ => quiet_done _
    · exact (h.head.single.mapFailure _).bind fun v => (ih h.tail _).quietly fun _ => quiet_done _

theorem runKernel_within (h : KnownQuiet operands) (kernel : Arguments → Except Failure Value)
    (types : List AttributeType) (given : List AttributeValue) :
    (runKernel f kernel operands types given).Within (asked operands) := by
  refine (quiet_done _).before fun _ => (evaluateArguments_within h 0).quietly fun evaluated => ?_
  exact (quiet_note rfl).bind fun _ => (quiet_done _).mapFailure _

theorem valueAt_spends (h : KnownQuiet operands) (given : List AttributeValue) (i : Nat) :
    (valueAt id operands given i).Spends (asked (operands.drop i))
      (asked (operands.drop (i + 1))) := by
  unfold valueAt
  cases hx : operands[i]? with
  | some x =>
    obtain ⟨hi, rfl⟩ := List.getElem?_eq_some_iff.1 hx
    have hdrop := h.drop i
    rw [List.drop_eq_getElem_cons hi] at hdrop ⊢
    exact hdrop.head.single.mapFailure _
  | none =>
    have hlength := List.getElem?_eq_none_iff.1 hx
    rw [List.drop_eq_nil_of_le hlength, List.drop_eq_nil_of_le (Nat.le_succ_of_le hlength)]
    dsimp only
    cases given[i - operands.length]? <;> exact (quiet_done _).spends _

theorem booleanAt_spends (h : KnownQuiet operands) (given : List AttributeValue) (i : Nat) :
    (booleanAt id operands given i).Spends (asked (operands.drop i))
      (asked (operands.drop (i + 1))) :=
  (valueAt_spends h given i).quietly fun v => by cases v <;> exact quiet_done _

/-- Booleans that take turns, each whether or not those before it fail. -/
inductive BooleansInTurn : List (Eval Bool) → List (Eval Value) → Prop
  | nil (turns : List (Eval Value)) : BooleansInTurn [] turns
  | cons {b : Eval Bool} {bs : List (Eval Bool)} {turns rest : List (Eval Value)} :
      b.Spends turns rest → BooleansInTurn bs rest → BooleansInTurn (b :: bs) turns

theorem booleansInTurn_range' (id : String) (h : KnownQuiet operands)
    (given : List AttributeValue) (first count : Nat) :
    BooleansInTurn ((List.range' first count).map (booleanAt id operands given))
      (asked (operands.drop first)) := by
  induction count generalizing first with
  | zero => exact .nil _
  | succ count ih => exact .cons (booleanAt_spends h given first) (ih (first + 1))

section Loops

variable {booleans : List (Eval Bool)} {turns : List (Eval Value)}

theorem untilDecisive_within (h : BooleansInTurn booleans turns) (decisive : Bool)
    (failure : Option Failure) : (untilDecisive decisive failure booleans).Within turns := by
  induction h generalizing failure with
  | nil turns => cases failure <;> exact (quiet_done _).within _
  | cons hb _ ih =>
    rw [untilDecisive_cons]
    refine hb.attempt.bind fun outcome => ?_
    cases outcome with
    | error e => exact ih _
    | ok b =>
      dsimp only
      split
      · exact (quiet_done _).within _
      · exact ih _

theorem untilReached_within (h : BooleansInTurn booleans turns) (needed failures : Nat)
    (failure : Option Failure) : (untilReached needed failures failure booleans).Within turns := by
  induction h generalizing needed failures failure with
  | nil turns => cases failure <;> exact (quiet_done _).within _
  | cons hb _ ih =>
    rw [untilReached_cons]
    refine hb.attempt.bind fun outcome => ?_
    rcases outcome with e | (_ | _) <;> dsimp only <;> repeat' split
    all_goals first
      | exact ih _ _ _
      | exact (quiet_done _).within _

end Loops

theorem runNOf_within (h : KnownQuiet operands) (count : Nat) (given : List AttributeValue) :
    (runNOf id operands count given).Within (asked operands) := by
  refine (valueAt_spends h given 0).bind fun v => ?_
  cases v with
  | integer n =>
    dsimp only
    split
    · exact (quiet_done _).within _
    split
    · exact (quiet_done _).within _
    split
    · exact (quiet_done _).within _
    · have hbooleans := booleansInTurn_range' id h given 1 (count - 1)
      have hnext : booleanAt id operands given ∘ (1 + ·) =
          fun i => booleanAt id operands given (i + 1) :=
        funext fun i => congrArg _ (Nat.add_comm 1 i)
      rw [List.range'_eq_map_range, List.map_map, hnext] at hbooleans
      exact untilReached_within hbooleans _ _ _
  | _ => exact (quiet_done _).within _

theorem runConnective_within (h : KnownQuiet operands) (c : Connective) (count : Nat)
    (given : List AttributeValue) :
    (runConnective c id operands count given).Within (asked operands) := by
  have hbooleans := booleansInTurn_range' id h given 0 count
  rw [← List.range_eq_range'] at hbooleans
  cases c with
  | or => exact untilDecisive_within hbooleans _ _
  | and => exact untilDecisive_within hbooleans _ _
  | nOf => exact runNOf_within h count given

/-- A constant pattern is known, so it has no turn. -/
theorem callPattern_spends (h : KnownQuiet operands) (given : List AttributeValue) :
    (callPattern id operands given).Spends (asked operands) (asked (operands.drop 1)) := by
  unfold callPattern
  cases hp : constantPattern? (operands.map Operand.toStatic) with
  | some p =>
    have hturns : asked operands = asked (operands.drop 1) := by
      cases operands with
      | nil => cases hp
      | cons x rest =>
        refine asked_cons_known ?_
        cases hx : x.value? with
        | none =>
          simp [constantPattern?, hx] at hp
        | some v => rfl
    rw [hturns]
    dsimp only
    cases Pattern.compile? p <;> exact (quiet_done _).spends _
  | none =>
    refine (valueAt_spends h given 0).quietly fun v => ?_
    cases v with
    | string p =>
      refine (ensures_pattern p).imp (fun _ _ => trivial) fun _ _ => trivial
    | _ => exact quiet_done _

theorem runMatching_within (h : KnownQuiet operands) (given : List AttributeValue) :
    (runMatching id operands given).Within (asked operands) := by
  refine (callPattern_spends h given).bind fun p => ?_
  refine ((valueAt_spends h given 1).quietly fun v => ?_).within
  cases v <;> exact quiet_done _

theorem firstOrder_within (h : KnownQuiet operands) (types : List AttributeType)
    (given : List AttributeValue) : (f.run operands types given).Within (asked operands) := by
  unfold FirstOrder.run
  cases f.body with
  | kernel kind run => exact runKernel_within h run types given
  | connective c => exact (runConnective_within h c _ given).quietly fun _ => quiet_done _
  | matching => exact (runMatching_within h given).quietly fun _ => quiet_done _
  | declaredOnly => exact (quiet_done _).within _

end FirstOrder

/-! ## Calls of combinators -/

section Combinator

variable {operands : List Operand} {g : FirstOrderFunction} {id : String}
  {types : List AttributeType}

/-- A call with bound constants evaluates no leaf. -/
theorem subCall_quiet (h : KnownQuiet operands) (hknown : ∀ x ∈ operands, x.value?.isSome = true)
    (given : List AttributeValue) : (subCall g operands types given).Quiet := by
  refine (quiet_note rfl).bind fun _ => within_nil.1 ?_
  have hrun := firstOrder_within (f := g) h types given
  rwa [asked_of_known hknown] at hrun

theorem subTest_quiet (h : KnownQuiet operands) (hknown : ∀ x ∈ operands, x.value?.isSome = true)
    (given : List AttributeValue) : (subTest id g operands types given).Quiet :=
  (subCall_quiet h hknown given).bind fun v => by
    cases v.bool? <;> exact quiet_done _

theorem subTest_quiet_nil (given : List AttributeValue) : (subTest id g [] types given).Quiet :=
  subTest_quiet (List.forall_mem_nil _) (List.forall_mem_nil _) given

theorem Quiet.ofBool {x : Eval Bool} (h : x.Quiet) :
    Quiet (x >>= fun b => pure (Value.ofBool b)) :=
  h.bind fun _ => quiet_done _

theorem evaluateSlots_within (h : KnownQuiet operands) (index : Nat) :
    (evaluateSlots id index operands).Within (asked operands) := by
  induction operands generalizing index with
  | nil => exact (quiet_done _).within _
  | cons x rest ih =>
    rw [evaluateSlots]
    refine (h.head.mapFailure _).bind fun v => ?_
    have hslot (slot : Slot) :
        (evaluateSlots id (index + 1) rest >>= fun others => pure (slot :: others)).Within
          (asked rest) := (ih h.tail _).quietly fun _ => quiet_done _
    cases x.datatype.isBag <;> cases v <;> exact (quiet_done _).before hslot

theorem runOneBag_within (h : KnownQuiet operands) (c : Combinator) :
    (runOneBag c g operands).Within (asked operands) := by
  have hbound : ∀ x ∈ operands.takeWhile (·.toStatic.isBindable), x.value?.isSome = true :=
    fun x hx => (mem_takeWhile_isBindable hx).2
  have hquiet : KnownQuiet (operands.takeWhile (·.toStatic.isBindable)) :=
    fun x hx => h x ((List.takeWhile_prefix _).subset hx)
  have hturns : asked operands = asked (operands.dropWhile (·.toStatic.isBindable)) := by
    conv_lhs => rw [← List.takeWhile_append_dropWhile (p := (·.toStatic.isBindable)) (l := operands)]
    rw [asked_append, asked_of_known hbound, List.nil_append]
  rw [hturns]
  unfold runOneBag
  dsimp only
  refine (evaluateSlots_within (fun x hx => h x ((List.dropWhile_suffix _).subset hx)) _).quietly
    fun slots => ?_
  cases c with
  | map =>
    refine Quiet.bind ?_ fun answers => ?_
    · refine (ensures_each fun e _ => Quiet.bind (subCall_quiet hquiet hbound _) fun v => ?_).imp
        (fun _ _ => trivial) fun _ h => h
      cases v <;> exact quiet_done _
    · cases g.returns with
      | value t => exact (quiet_done _).bind fun _ => quiet_done _
      | _ => exact quiet_done _
  | _ =>
    simp only [any_eq_seek, all_eq_seek]
    exact Quiet.ofBool (ensures_seek fun e _ => subTest_quiet hquiet hbound _)

theorem evaluateDomains_within (h : KnownQuiet operands) (index : Nat) :
    (evaluateDomains id index operands).Within (asked operands) := by
  induction operands generalizing index with
  | nil => exact (quiet_done _).within _
  | cons x rest ih =>
    rw [evaluateDomains]
    refine (h.head.mapFailure _).bind fun v => ?_
    cases v <;> exact (quiet_done _).before fun domain =>
      (ih h.tail _).quietly fun _ => quiet_done _

theorem runEveryCombination_within (h : KnownQuiet operands) (c : Combinator) :
    (runEveryCombination c g operands).Within (asked operands) := by
  rw [runEveryCombination_eq]
  refine (evaluateDomains_within h 1).quietly fun domains => ?_
  exact Quiet.ofBool (ensures_seek fun as _ => subTest_quiet_nil as)

theorem runTwoBags_within (h : KnownQuiet operands) (c : Combinator) :
    (runTwoBags c g operands).Within (asked operands) := by
  unfold runTwoBags
  rcases operands with _ | ⟨x, _ | ⟨y, _ | ⟨z, rest⟩⟩⟩
  · exact (quiet_done _).within _
  · exact (quiet_done _).within _
  · refine (h.head.mapFailure _).bind fun v => ?_
    refine ((h.tail.head.mapFailure _).quietly fun w => ?_).within
    cases v <;> cases w <;> try exact quiet_done _
    cases c with
    | _ =>
      simp only [any_eq_seek, all_eq_seek]
      exact Quiet.ofBool (ensures_seek fun v _ => ensures_seek fun w _ => subTest_quiet_nil _)
  · exact (quiet_done _).within _

theorem combinator_within (h : KnownQuiet operands) (c : Combinator) :
    (c.run operands).Within (asked operands) := by
  unfold Combinator.run
  rcases operands with _ | ⟨⟨⟨d, _ | (_ | _ | (g | _))⟩, eval⟩, rest⟩ <;>
    try exact (quiet_done _).within _
  rw [asked_cons_known rfl]
  cases c with
  | anyOf | allOf | map => exact runOneBag_within h.tail _
  | anyOfAny => exact runEveryCombination_within h.tail _
  | allOfAny | anyOfAll | allOfAll => exact runTwoBags_within h.tail _

end Combinator

/-- In every call, the operands whose value is not known take turns. -/
theorem Callable.run_within {f : Function} {operands : List Operand} (h : KnownQuiet operands)
    (types : List AttributeType) (given : List AttributeValue) :
    (f.run operands types given).Within (asked operands) := by
  cases f with
  | firstOrder g => exact firstOrder_within h types given
  | combinator c => exact combinator_within h c

end Xacml
