/-
What the arguments of a combinator contribute to the calls of its function. They are evaluated
first, and if one of them fails there is no call. Otherwise each contributes values, a bag its
elements, and the function is called with combinations of them, which have the types that it has been
bound to.
-/
import Xacml.Proofs.Combinator.Arguments

namespace Xacml

open Eval

/-! ## Combinations -/

/-- The lists with one value of each argument, given what the arguments have answered. -/
def Value.combinations (ws : List Value) : List (List AttributeValue) :=
  Odometer.combinations (ws.map Value.contributed)

theorem mem_combinations_pair {w w' : Value} {vs : List AttributeValue} :
    vs ∈ Value.combinations [w, w'] ↔ ∃ v ∈ w.contributed, ∃ v' ∈ w'.contributed, [v, v'] = vs := by
  rw [Value.combinations, Odometer.mem_combinations]
  constructor
  · rintro (_ | ⟨hv, _ | ⟨hv', ⟨⟩⟩⟩)
    exact ⟨_, hv, _, hv', rfl⟩
  · rintro ⟨v, hv, v', hv', rfl⟩
    exact .cons hv (.cons hv' .nil)

/-! ## Answers as they are declared -/

section Typed

variable {xs : List Operand} {ws : List Value}

theorem datatypes_of_answers (hx : ∀ x ∈ xs, x.Reliable) (h : List.Forall₂ Operand.Answers xs ws) :
    ws.map Value.datatype = xs.map (·.datatype) := by
  induction h with
  | nil => rfl
  | @cons _ w _ _ hw _ ih =>
    rw [List.forall_mem_cons] at hx
    rw [List.map_cons, List.map_cons, ih hx.2, (hx.1.hasType hw : w.datatype = _)]

theorem no_function_of_answers (hx : ∀ x ∈ xs, x.Reliable) (hd : ∀ x ∈ xs, x.datatype ≠ .function)
    (h : List.Forall₂ Operand.Answers xs ws) : ∀ w ∈ ws, w.datatype ≠ .function := by
  intro w hw hfunction
  have hmem := List.mem_map_of_mem (f := Value.datatype) hw
  rw [datatypes_of_answers hx h, hfunction] at hmem
  obtain ⟨x, hxs, hdt⟩ := List.mem_map.1 hmem
  exact hd x hxs hdt

theorem fits_of_answers (hx : ∀ x ∈ xs, x.Reliable) (hd : ∀ x ∈ xs, x.datatype ≠ .function)
    (h : List.Forall₂ Operand.Answers xs ws) :
    List.Forall₂ (fun s (x : Operand) => s.Fits x.datatype) (ws.map Slot.ofValue) xs := by
  induction h with
  | nil => exact .nil
  | @cons x w xs ws hw _ ih =>
    rw [List.forall_mem_cons] at hx hd
    refine .cons ?_ (ih hx.2 hd.2)
    have htype : w.datatype = x.datatype := hx.1.hasType hw
    cases w with
    | single v => exact htype.symm
    | bag b => exact htype.symm
    | function f => exact absurd htype.symm hd.1

theorem domainFits_of_answers (hx : ∀ x ∈ xs, x.Reliable)
    (hd : ∀ x ∈ xs, x.datatype ≠ .function) (h : List.Forall₂ Operand.Answers xs ws) :
    List.Forall₂ DomainFits (ws.map Value.contributed) xs := by
  induction h with
  | nil => exact .nil
  | @cons x w xs ws hw _ ih =>
    rw [List.forall_mem_cons] at hx hd
    refine .cons ?_ (ih hx.2 hd.2)
    have htype : w.datatype = x.datatype := hx.1.hasType hw
    cases w with
    | single v =>
      exact ⟨v.type, by rw [Static.element?, ← htype]; rfl, List.forall_mem_singleton.2 rfl⟩
    | bag b => exact ⟨b.element, by rw [Static.element?, ← htype]; rfl, fun _ => Bag.type_of_mem⟩
    | function f => exact absurd htype.symm hd.1

/-- What is known beforehand and is neither a bag nor a function is a constant. -/
theorem exists_constants (hx : ∀ x ∈ xs, x.Reliable) (hd : ∀ x ∈ xs, x.datatype ≠ .function)
    (hk : ∀ x ∈ xs, x.datatype.isBag = false ∧ x.value?.isSome = true) :
    ∃ values, List.Forall₂ Operand.IsConstant xs values := by
  induction xs with
  | nil => exact ⟨[], .nil⟩
  | cons x rest ih =>
    rw [List.forall_mem_cons] at hx hd hk
    obtain ⟨values, hvalues⟩ := ih hx.2 hd.2 hk.2
    obtain ⟨w, hw⟩ := Option.isSome_iff_exists.1 hk.1.2
    have hanswer : x.Answers w := congrArg Eval.answer (hx.1.known w hw)
    have htype : w.datatype = x.datatype := hx.1.hasType hanswer
    cases w with
    | single v => exact ⟨v :: values, .cons (hx.1.isConstant hw) hvalues⟩
    | bag b =>
      have hbag := hk.1.1
      rw [← htype] at hbag
      cases hbag
    | function f => exact absurd htype.symm hd.1

end Typed

/-! ## Checked calls -/

/-- What the check of a combinator of one bag has made sure of about its arguments. -/
structure OneBagArguments (g : FirstOrderFunction) (xs : List Operand) : Prop where
  reliable : ∀ x ∈ xs, x.Reliable
  noFunction : ∀ x ∈ xs, x.datatype ≠ .function
  oneBag : xs.countP (·.datatype.isBag) = 1
  bound : g.bind ((xs.takeWhile (·.toStatic.isBindable)).map (·.toStatic))
    ((xs.dropWhile (·.toStatic.isBindable)).filterMap (·.toStatic.element?)) = .ok ()

namespace OneBagArguments

variable {g : FirstOrderFunction} {xs : List Operand}

theorem reliable_bound (h : OneBagArguments g xs) :
    ∀ x ∈ xs.takeWhile (·.toStatic.isBindable), x.Reliable :=
  fun x hx => h.reliable x ((List.takeWhile_sublist _).subset hx)

theorem reliable_unbound (h : OneBagArguments g xs) :
    ∀ x ∈ xs.dropWhile (·.toStatic.isBindable), x.Reliable :=
  fun x hx => h.reliable x ((List.dropWhile_sublist _).subset hx)

theorem noFunction_unbound (h : OneBagArguments g xs) :
    ∀ x ∈ xs.dropWhile (·.toStatic.isBindable), x.datatype ≠ .function :=
  fun x hx => h.noFunction x ((List.dropWhile_sublist _).subset hx)

theorem exists_bound (h : OneBagArguments g xs) :
    ∃ values, List.Forall₂ Operand.IsConstant (xs.takeWhile (·.toStatic.isBindable)) values :=
  exists_constants h.reliable_bound (fun x hx => h.noFunction x ((List.takeWhile_sublist _).subset hx))
    fun _ => mem_takeWhile_isBindable

end OneBagArguments

/-- The same for a function of the library. -/
structure OneBagCall (g : FirstOrderFunction) (xs : List Operand) : Prop
    extends OneBagArguments g xs where
  library : g ∈ Library.firstOrder

/-- What the check of a combinator makes sure of, if nothing is bound. -/
structure UnboundCall (g : FirstOrderFunction) (xs : List Operand) : Prop where
  library : g ∈ Library.firstOrder
  reliable : ∀ x ∈ xs, x.Reliable
  noFunction : ∀ x ∈ xs, x.datatype ≠ .function
  bound : g.bind [] (xs.filterMap (·.toStatic.element?)) = .ok ()

/-- The function is bound to the types of every combination. -/
theorem UnboundCall.bind_of_mem {g : FirstOrderFunction} {xs : List Operand} {ws : List Value}
    (h : UnboundCall g xs) (hws : List.Forall₂ Operand.Answers xs ws) {vs : List AttributeValue}
    (hvs : vs ∈ Value.combinations ws) : g.bind [] (vs.map AttributeValue.type) = .ok () := by
  rw [types_combination (Odometer.mem_combinations.1 hvs)
    (domainFits_of_answers h.reliable h.noFunction hws)]
  exact h.bound

end Xacml
