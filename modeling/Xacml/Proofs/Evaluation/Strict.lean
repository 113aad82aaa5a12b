/-
Kernels are strict. A call of a kernel first looks at the values that it is given, then evaluates its
arguments from left to right, each to the kind of value that its kind of kernel takes there, and then
runs the kernel once. Main statement: what the call comes to in each of these cases, with the store of
patterns and the events that it leaves, so that what is not evaluated shows as well.
-/
import Xacml.Proofs.Evaluation.Kernel

namespace Xacml

open Eval

/-! ## What a kernel takes -/

/-- An argument as a kernel takes it: a bag, or else a single value. -/
def Eval.takenAs (isBag : Bool) (x : Eval Value) : Eval Value :=
  if isBag then x.bag >>= fun b => pure (.bag b) else x.single >>= fun v => pure (.single v)

/-- Whether a kernel takes a bag for a parameter. Only a kernel of values and bags looks at it. -/
def KernelKind.takesBag (kind : KernelKind) (parameter : Option Datatype) : Bool :=
  match kind with
  | .uniform | .mixed => false
  | .bags => true
  | .valuesThenBags => parameter.any Datatype.isBag

/-- The arguments of a call as its kernel takes them. -/
def FirstOrder.taken (f : FirstOrderFunction) (kind : KernelKind) (operands : List Operand) :
    List (Eval Value) :=
  operands.mapIdx fun i x => x.eval.takenAs (kind.takesBag (f.signature.parameter? i))

namespace Signature

variable {s : Signature}

theorem mem_of_parameter? {i : Nat} {d : Datatype} (h : s.parameter? i = some d) :
    d ∈ s.parameters := by
  unfold parameter? at h
  split at h
  · rename_i t ht
    cases h
    exact List.mem_of_getElem? ht
  · split at h
    · exact List.mem_of_getLast? h
    · cases h

/-- The layout of the parameters says whether they are bags. -/
theorem takesBag_of_shape {shape : ArgumentShape} (hs : s.shape = .ok shape) {i : Nat} {d : Datatype}
    (h : s.parameter? i = some d) :
    (KernelKind.ofShape shape).takesBag (s.parameter? i) = d.isBag := by
  have hmem := mem_of_parameter? h
  have hfirst : s.parameters ≠ [] := List.ne_nil_of_mem hmem
  obtain ⟨first, rest, hcons⟩ := List.exists_cons_of_ne_nil hfirst
  unfold Signature.shape at hs
  rw [hcons] at hs
  dsimp only at hs
  rw [← hcons] at hs
  split at hs
  · cases hs
  split at hs
  · rename_i hall
    cases hs
    exact (List.all_eq_true.1 hall d hmem).symm
  split at hs
  · split at hs
    · cases hs
      rw [h]
      rfl
    · cases hs
  · rename_i hnone
    have hvalue : d.isBag = false := by
      by_contra hbag
      exact hnone (List.any_eq_true.2 ⟨d, hmem, by simpa using hbag⟩)
    rw [hvalue]
    split at hs
    · split at hs <;> cases hs <;> rfl
    · cases hs
      rfl

end Signature

/-! ## Arguments in order -/

namespace Arguments

/-- The arguments of a kernel in parameter order. -/
def inOrder (a : Arguments) : List Value := a.values.map .single ++ a.bags.map .bag

/-- Puts a value before the others of its kind. -/
def add (w : Value) (a : Arguments) : Arguments :=
  match w with
  | .single v => { a with values := v :: a.values }
  | .bag b => { a with bags := b :: a.bags }
  | .function _ => a

theorem ofValues_cons (w : Value) (ws : List Value) : ofValues (w :: ws) = (ofValues ws).add w := by
  cases w <;> rfl

/-- Single values at the end come after the single values before them. -/
theorem ofValues_append (ws : List Value) (given : List AttributeValue) :
    ofValues (ws ++ given.map .single) =
      { ofValues ws with values := (ofValues ws).values ++ given } := by
  induction ws with
  | nil =>
    induction given with
    | nil => rfl
    | cons v rest ih =>
      rw [List.nil_append] at ih ⊢
      rw [List.map_cons, ofValues_cons, ih]
      rfl
  | cons w ws ih =>
    rw [List.cons_append, ofValues_cons, ofValues_cons, ih]
    cases w <;> rfl

/-- The values in parameter order leave no doubt about the arguments. -/
theorem ofValues_inOrder (a : Arguments) : ofValues a.inOrder = a := by
  obtain ⟨values, bags⟩ := a
  induction values with
  | nil =>
    induction bags with
    | nil => rfl
    | cons b rest ih =>
      rw [inOrder, List.map_nil, List.nil_append] at ih ⊢
      rw [List.map_cons, ofValues_cons, ih]
      rfl
  | cons v rest ih =>
    have hcons : inOrder ⟨v :: rest, bags⟩ = .single v :: inOrder ⟨rest, bags⟩ := rfl
    rw [hcons, ofValues_cons, ih]
    rfl

/-- Values of ordered datatypes are in parameter order. -/
theorem inOrder_ofValues {ws : List Value} (h : Ordered (ws.map Value.datatype)) :
    (ofValues ws).inOrder = ws := by
  obtain ⟨hf, hp⟩ := h
  induction ws with
  | nil => rfl
  | cons w ws ih =>
    rw [List.map_cons, List.mem_cons, not_or] at hf
    obtain ⟨hw, hrest⟩ := List.pairwise_cons.1 hp
    have ih := ih hf.2 hrest
    rw [ofValues_cons]
    cases w with
    | function f => exact absurd rfl hf.1
    | single v => exact congrArg (Value.single v :: ·) ih
    | bag b =>
      -- after a bag there are only bags, so that there is no single value to stand before it
      have hvalues : (ofValues ws).values = [] := by
        rw [List.eq_nil_iff_forall_not_mem]
        intro v hv
        have hmem : Value.single v ∈ ws := by
          rw [← ih]
          exact List.mem_append_left _ (List.mem_map_of_mem hv)
        cases hw _ (List.mem_map_of_mem hmem) rfl
      rw [inOrder, hvalues] at ih
      rw [inOrder, add, hvalues]
      exact congrArg (Value.bag b :: ·) ih

end Arguments

/-! ## Evaluating the arguments -/

section Evaluate

variable {f : FirstOrderFunction} {x : Operand} {operands : List Operand}

/-- A value that is turned into another can be so turned before the failure is changed. -/
theorem bind_mapFailure {α β γ : Type} (y : Eval α) (k : α → β) (g : Failure → Failure)
    (next : β → Eval γ) :
    ((y >>= fun a => pure (k a)).mapFailure g >>= next) =
      y.mapFailure g >>= fun a => next (k a) := by
  funext c
  have hleft : ((y >>= fun a => pure (k a)).mapFailure g) c =
      ⟨((y c).result.map k).mapError g, (y c).cache, (y c).events⟩ := by
    rw [mapFailure, map_apply]
  rw [bind_apply, bind_apply, andThen, andThen, hleft, mapFailure]
  cases (y c).result <;> rfl

/-- The first argument is evaluated, and then the others. -/
theorem evaluateArguments_cons (index : Nat) :
    evaluateArguments f index (x :: operands) =
      (x.eval.takenAs ((f.signature.parameter? index).any Datatype.isBag)).mapFailure
        (.inArgument f.id index) >>= fun w =>
          evaluateArguments f (index + 1) operands >>= fun others => pure (others.add w) := by
  rw [evaluateArguments, takenAs]
  split <;> rw [bind_mapFailure] <;> rfl

/-- How the arguments of a call end, evaluated one after the other from position `index` on. -/
structure ArgumentsEnd (id : String) (index : Nat) (args : List (Eval Value)) (c : Pattern.Cache)
    (o : Outcome Arguments) : Prop where
  evaluated : ∀ ws, answers args c = ws.map .ok →
    o = ⟨.ok (.ofValues ws), cacheAfter args c, eventsOf args c⟩
  /-- The first that fails ends them. -/
  failed : ∀ i e, (answers args c)[i]? = some (.error e) →
    (∀ j < i, ∃ w, (answers args c)[j]? = some (.ok w)) →
    o = ⟨.error (.inArgument id (index + i) e), cacheAfter (args.take (i + 1)) c,
      eventsOf (args.take (i + 1)) c⟩

namespace ArgumentsEnd

variable {id : String} {index : Nat} {y : Eval Value} {args : List (Eval Value)}
  {c : Pattern.Cache}

theorem nil : ArgumentsEnd id index [] c ⟨.ok (.ofValues []), c, []⟩ where
  evaluated := by
    intro ws hws
    rw [List.map_eq_nil_iff.1 hws.symm]
    rfl
  failed := by
    intro i e hi
    cases hi

/-- A first argument that fails. -/
theorem cons_error {e : Failure} (he : (y c).result = .error e) :
    ArgumentsEnd id index (y :: args) c
      ⟨.error (.inArgument id index e), (y c).cache, (y c).events⟩ where
  evaluated := by
    intro ws hws
    rw [answers, he] at hws
    cases ws <;> cases hws
  failed := by
    intro i e' hi hbefore
    rw [answers, he] at hi hbefore
    cases i with
    | zero =>
      cases hi
      rw [List.take_succ_cons, List.take_zero, cacheAfter, cacheAfter, eventsOf, eventsOf,
        List.append_nil]
      rfl
    | succ i =>
      obtain ⟨w, hw⟩ := hbefore 0 (Nat.zero_lt_succ i)
      cases hw

/-- A first argument that has a value. -/
theorem cons_ok {w : Value} {o : Outcome Arguments} (hw : (y c).result = .ok w)
    (h : ArgumentsEnd id (index + 1) args (y c).cache o) :
    ArgumentsEnd id index (y :: args) c
      ⟨o.result.map (·.add w), o.cache, (y c).events ++ o.events⟩ where
  evaluated := by
    intro ws hws
    rw [answers, hw] at hws
    obtain ⟨v, ws, rfl, hv, hrest⟩ := List.map_eq_cons_iff.1 hws.symm
    cases hv
    rw [h.evaluated ws hrest.symm, Arguments.ofValues_cons]
    rfl
  failed := by
    intro i e hi hbefore
    rw [answers, hw] at hi hbefore
    cases i with
    | zero => cases hi
    | succ i =>
      rw [h.failed i e hi fun j hj => hbefore (j + 1) (Nat.succ_lt_succ hj), Nat.add_assoc,
        Nat.add_comm 1]
      rfl

end ArgumentsEnd

theorem evaluateArguments_ends (takes : Nat → Bool) (index : Nat) (c : Pattern.Cache)
    (h : ∀ i < operands.length,
      (f.signature.parameter? (index + i)).any Datatype.isBag = takes i) :
    ArgumentsEnd f.id index (operands.mapIdx fun i x => x.eval.takenAs (takes i)) c
      (evaluateArguments f index operands c) := by
  induction operands generalizing takes index c with
  | nil => exact .nil
  | cons x rest ih =>
    have hfirst : (f.signature.parameter? index).any Datatype.isBag = takes 0 :=
      h 0 (Nat.zero_lt_succ _)
    rw [List.mapIdx_cons, evaluateArguments_cons, hfirst]
    generalize x.eval.takenAs (takes 0) = y
    cases hy : (y c).result with
    | error e =>
      have hfails : (y.mapFailure (.inArgument f.id index) c).result =
          .error (.inArgument f.id index e) := by rw [mapFailure, hy]; rfl
      rw [bind_of_error hfails]
      exact .cons_error hy
    | ok w =>
      have hanswers : (y.mapFailure (.inArgument f.id index) c).result = .ok w := by
        rw [mapFailure, hy]; rfl
      rw [bind_of_ok hanswers, map_apply]
      refine .cons_ok hy (ih (fun i => takes (i + 1)) (index + 1) (y c).cache fun i hi => ?_)
      rw [Nat.add_assoc, Nat.add_comm 1]
      exact h (i + 1) (Nat.succ_lt_succ hi)

end Evaluate

/-! ## The kinds of values -/

section Kinds

theorem getElem?_answers (xs : List (Eval Value)) (c : Pattern.Cache) (i : Nat) :
    (answers xs c)[i]? = xs[i]?.map fun x => (x (cacheAfter (xs.take i) c)).result := by
  induction xs generalizing c i with
  | nil => rfl
  | cons x rest ih =>
    cases i with
    | zero => rfl
    | succ i => exact ih (x c).cache i

theorem isBag_of_takenAs {isBag : Bool} {x : Eval Value} {c : Pattern.Cache} {w : Value}
    (h : (x.takenAs isBag c).result = .ok w) : w.datatype ≠ .function ∧ w.datatype.isBag = isBag := by
  unfold takenAs at h
  split at h
  · rename_i hbag
    rw [map_apply] at h
    cases hr : (x.bag c).result <;> rw [hr] at h <;> cases h
    exact ⟨nofun, hbag.symm⟩
  · rename_i hvalue
    rw [map_apply] at h
    cases hr : (x.single c).result <;> rw [hr] at h <;> cases h
    exact ⟨nofun, (Bool.eq_false_iff.2 hvalue).symm⟩

/-- Whether a list of datatypes is ordered depends only on which of them are bags. -/
theorem Ordered.of_isBag {types types' : List Datatype} (h : Ordered types)
    (hf : .function ∉ types') (hbags : types'.map Datatype.isBag = types.map Datatype.isBag) :
    Ordered types' := by
  refine ⟨hf, ?_⟩
  have hp := List.pairwise_map (f := Datatype.isBag) (R := fun a b => a = true → b = true) |>.2 h.2
  rw [← hbags] at hp
  exact List.pairwise_map.1 hp

variable {f : FirstOrderFunction} {kind : KernelKind} {operands : List Operand}
  {types : List AttributeType} {given : List AttributeValue} {ws : List Value} {c : Pattern.Cache}

/-- Values that a kernel has taken are of the kinds of its operands. -/
theorem ordered_of_taken (hordered : Ordered (callTypes operands (given.map AttributeValue.type)))
    (hkind : ∀ i x, operands[i]? = some x →
      kind.takesBag (f.signature.parameter? i) = x.datatype.isBag)
    (hws : answers (f.taken kind operands) c = ws.map .ok) :
    Ordered ((ws ++ given.map Value.single).map Value.datatype) := by
  have hat (i : Nat) (w : Value) (hw : ws[i]? = some w) : ∃ x, operands[i]? = some x ∧
      w.datatype ≠ .function ∧ w.datatype.isBag = x.datatype.isBag := by
    have hi := getElem?_answers (f.taken kind operands) c i
    rw [hws, List.getElem?_map, hw, FirstOrder.taken, List.getElem?_mapIdx, Option.map_map] at hi
    obtain ⟨x, hx, hresult⟩ := Option.map_eq_some_iff.1 hi.symm
    obtain ⟨hne, hbag⟩ := isBag_of_takenAs hresult
    exact ⟨x, hx, hne, hbag.trans (hkind i x hx)⟩
  have hlength : ws.length = operands.length := by
    have h := congrArg List.length hws
    rwa [length_answers, FirstOrder.taken, List.length_mapIdx, List.length_map, eq_comm] at h
  have hbags : ws.map (·.datatype.isBag) = operands.map (·.datatype.isBag) := by
    refine List.ext_getElem (by simpa using hlength) fun i hi hi' => ?_
    rw [List.length_map] at hi
    obtain ⟨x, hx, -, hbag⟩ := hat i ws[i] (List.getElem?_eq_getElem hi)
    obtain ⟨_, rfl⟩ := List.getElem?_eq_some_iff.1 hx
    rw [List.getElem_map, List.getElem_map, hbag]
  refine hordered.of_isBag ?_ ?_
  · rw [List.map_append, List.mem_append, not_or, List.map_map]
    refine ⟨fun hmem => ?_, by simp [Function.comp_def, Value.datatype]⟩
    obtain ⟨w, hw, hfunction⟩ := List.mem_map.1 hmem
    obtain ⟨i, hi⟩ := List.mem_iff_getElem?.1 hw
    obtain ⟨x, -, hne, -⟩ := hat i w hi
    exact hne hfunction
  · simp only [callTypes, List.map_append, List.map_map, Function.comp_def, Value.datatype]
    exact congrArg (· ++ _) hbags

end Kinds

/-! ## Calls -/

section Call

variable {f : FirstOrderFunction} {kind : KernelKind} {run : Arguments → Except Failure Value}
  {shape : ArgumentShape} {operands : List Operand} {types : List AttributeType}
  {given : List AttributeValue}

/-- A kernel can be declared only with parameters of the layout that suits it. -/
theorem FirstOrder.validate_kernel (h : f.validate = .ok shape) (hbody : f.body = .kernel kind run) :
    f.signature.shape = .ok shape ∧ kind = .ofShape shape := by
  unfold FirstOrder.validate at h
  split at h
  · cases h
  rw [hbody] at h
  cases hs : f.signature.shape with
  | error fault => rw [hs] at h; cases h
  | ok shape' =>
    rw [hs] at h
    dsimp only at h
    split at h
    · rename_i hkind
      cases h
      exact ⟨rfl, hkind⟩
    · cases h

theorem checkGivenFrom_of_ne (id : String) {types : List AttributeType}
    {given : List AttributeValue} (index : Nat) (hlength : types.length = given.length)
    (h : given.map AttributeValue.type ≠ types) :
    ∃ p : Problem, p.status = .processingError ∧
      checkGivenFrom id index types given = .error (.of p) := by
  induction types generalizing given index with
  | nil =>
    cases given with
    | nil => exact absurd rfl h
    | cons v rest => cases hlength
  | cons t types ih =>
    cases given with
    | nil => cases hlength
    | cons v rest =>
      rw [checkGivenFrom]
      split
      · rename_i ht
        refine ih (index + 1) (Nat.succ.inj hlength) fun hrest => h ?_
        rw [List.map_cons, ht, hrest]
      · exact ⟨.remainingType id index t v.type, rfl, rfl⟩

/-- Given values that are not of the declared types are refused. -/
theorem checkGiven_of_ne (id : String) (h : given.map AttributeValue.type ≠ types) :
    ∃ p : Problem, p.status = .processingError ∧ checkGiven id types given = .error (.of p) := by
  unfold checkGiven
  split
  · rename_i hlength
    exact checkGivenFrom_of_ne id 0 hlength h
  · exact ⟨.remainingCount id types.length given.length, rfl, rfl⟩

theorem FirstOrder.run_of_given_ne (hbody : f.body = .kernel kind run)
    (h : given.map AttributeValue.type ≠ types) (c : Pattern.Cache) :
    ∃ e : Failure, e.status = .processingError ∧
      f.run operands types given c = ⟨.error e, c, []⟩ := by
  obtain ⟨p, hp, hchecked⟩ := checkGiven_of_ne f.id h
  refine ⟨.of p, hp, ?_⟩
  rw [FirstOrder.run, hbody]
  dsimp only
  rw [runKernel, hchecked, bind_of_error rfl]
  rfl

/-- Once the given values have passed, the arguments are evaluated and the kernel is run on them. -/
theorem FirstOrder.run_of_evaluated (hbody : f.body = .kernel kind run)
    (h : given.map AttributeValue.type = types) (c : Pattern.Cache) :
    f.run operands types given c =
      let evaluated := evaluateArguments f 0 operands c
      match evaluated.result with
      | .error e => ⟨.error e, evaluated.cache, evaluated.events⟩
      | .ok a =>
        let a := { a with values := a.values ++ given }
        ⟨(run a).mapError (.wrap (.body f.id)), evaluated.cache,
          evaluated.events ++ [.kernel f.id a]⟩ := by
  subst h
  rw [FirstOrder.run, hbody]
  dsimp only
  rw [runKernel, checkGiven_of_types, bind_of_ok rfl]
  cases hr : (evaluateArguments f 0 operands c).result with
  | error e => exact bind_of_error hr
  | ok a => exact bind_of_ok hr

/-- A call of a kernel that is bound. If the given values are not of the declared types, it fails and
nothing is evaluated. Else, if an argument fails or is of the wrong kind, the first such argument fails
the call, under its position, and neither those after it nor the kernel take place. Else the kernel is
run once, on the arguments in parameter order and then the given values; its value is the answer, and
its failure gets one frame more. -/
theorem FirstOrder.kernel_strict (hvalid : f.validate = .ok shape)
    (hbody : f.body = .kernel kind run)
    (hbound : f.bind (operands.map (·.toStatic)) types = .ok ()) (given : List AttributeValue)
    (c : Pattern.Cache) :
    let args := f.taken kind operands
    (given.map AttributeValue.type ≠ types → ∃ e : Failure, e.status = .processingError ∧
      f.run operands types given c = ⟨.error e, c, []⟩) ∧
    (given.map AttributeValue.type = types →
      (∀ i e, (answers args c)[i]? = some (.error e) →
        (∀ j < i, ∃ w, (answers args c)[j]? = some (.ok w)) →
        ∃ e' : Failure, e'.chain = ⟨e.status, .argument f.id i⟩ :: e.chain ∧
          f.run operands types given c =
            ⟨.error e', cacheAfter (args.take (i + 1)) c, eventsOf (args.take (i + 1)) c⟩) ∧
      ∀ ws, answers args c = ws.map .ok → ∃ a : Arguments, ∃ r,
        a.inOrder = ws ++ given.map .single ∧
        (∀ v, run a = .ok v → r = .ok v) ∧
        (∀ e, run a = .error e → ∃ e' : Failure,
          e'.chain = ⟨e.status, .body f.id⟩ :: e.chain ∧ r = .error e') ∧
        f.run operands types given c =
          ⟨r, cacheAfter args c, eventsOf args c ++ [.kernel f.id a]⟩) := by
  intro args
  obtain ⟨hshape, hkindShape⟩ := FirstOrder.validate_kernel hvalid hbody
  obtain ⟨⟨result, hcheck⟩, -⟩ := FirstOrder.bind_eq_ok_iff.1 hbound
  rw [List.map_map] at hcheck
  have hparameter (i : Nat) (x : Operand) (hx : operands[i]? = some x) :
      f.signature.parameter? i = some x.datatype :=
    Signature.parameter?_of_check hcheck (getElem?_callTypes_operand types hx)
  have hkind (i : Nat) (x : Operand) (hx : operands[i]? = some x) :
      kind.takesBag (f.signature.parameter? i) = x.datatype.isBag := by
    rw [hkindShape]
    exact Signature.takesBag_of_shape hshape (hparameter i x hx)
  have hends : ArgumentsEnd f.id 0 args c (evaluateArguments f 0 operands c) :=
    evaluateArguments_ends (fun i => kind.takesBag (f.signature.parameter? i)) 0 c fun i hi => by
      have hx := List.getElem?_eq_getElem hi
      rw [Nat.zero_add, hkind i _ hx, hparameter i _ hx, Option.any_some]
  refine ⟨fun h => FirstOrder.run_of_given_ne hbody h c, fun h => ⟨?_, ?_⟩⟩
  · intro i e hi hbefore
    have hfails := hends.failed i e hi hbefore
    rw [Nat.zero_add] at hfails
    refine ⟨.inArgument f.id i e, Failure.chain_wrap _ _, ?_⟩
    rw [FirstOrder.run_of_evaluated hbody h, hfails]
  · intro ws hws
    have hordered : Ordered (callTypes operands (given.map AttributeValue.type)) := by
      rw [h]
      exact ((Signature.check_eq_ok_iff (Signature.ordered_parameters hshape).1).1 hcheck).1.ordered
        hshape
    refine ⟨.ofValues (ws ++ given.map .single),
      (run (.ofValues (ws ++ given.map .single))).mapError (.wrap (.body f.id)),
      Arguments.inOrder_ofValues (ordered_of_taken hordered hkind hws), ?_, ?_, ?_⟩
    · intro v hv
      rw [hv]
      rfl
    · intro e he
      exact ⟨.wrap (.body f.id) e, Failure.chain_wrap _ _, by rw [he]; rfl⟩
    · rw [FirstOrder.run_of_evaluated hbody h, hends.evaluated ws hws, Arguments.ofValues_append]

/-- Looking for a number in a bag: if the bag fails, nothing is looked for; otherwise the kernel is run on
the number and the bag. -/
theorem kernel_strict_contains :
    let contains := Library.ofValueAndBag "contains" .boolean .integer fun v b =>
      .ofBool (b.contains v)
    let number : Operand := ⟨⟨.integer, none⟩, .ok (.single (.integer 5))⟩
    let failing : Operand := ⟨⟨.bag .integer, none⟩, .fail (.of (.noContext "numbers"))⟩
    let empty : Operand := ⟨⟨.bag .integer, none⟩, .ok (.bag (.empty .integer))⟩
    (∃ e : Failure, e.chain = [⟨.missingAttribute, .argument "contains" 1⟩,
        ⟨.missingAttribute, .noContext "numbers"⟩] ∧
      contains.run [number, failing] [] [] (.empty 0) = ⟨.error e, .empty 0, []⟩) ∧
    contains.run [number, empty] [] [] (.empty 0) = ⟨.ok (.ofBool false), .empty 0,
      [.kernel "contains" ⟨[.integer 5], [.empty .integer]⟩]⟩ := by
  intro contains number failing empty
  have hvalid : contains.validate = .ok .valuesThenBags := rfl
  constructor
  · have hbound : contains.bind ([number, failing].map (·.toStatic)) [] = .ok () := rfl
    obtain ⟨hfails, -⟩ := (FirstOrder.kernel_strict hvalid rfl hbound [] (.empty 0)).2 rfl
    refine hfails 1 (.of (.noContext "numbers")) rfl fun j hj => ?_
    obtain rfl : j = 0 := by omega
    exact ⟨.single (.integer 5), rfl⟩
  · have hbound : contains.bind ([number, empty].map (·.toStatic)) [] = .ok () := rfl
    obtain ⟨-, hruns⟩ := (FirstOrder.kernel_strict hvalid rfl hbound [] (.empty 0)).2 rfl
    obtain ⟨a, r, ha, hr, -, hrun⟩ := hruns [.single (.integer 5), .bag (.empty .integer)] rfl
    obtain rfl : a = ⟨[.integer 5], [.empty .integer]⟩ := by
      rw [← Arguments.ofValues_inOrder a, ha]
      rfl
    obtain rfl := hr (.ofBool false) rfl
    exact hrun

end Call

end Xacml
