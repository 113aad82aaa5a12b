/-
Which argument lists a signature accepts. The check of a call accepts exactly the language of the
signature, and gives the accepted list back; a signature that has a shape accepts only lists of
single values followed by bags.
-/
import Mathlib.Data.List.TakeWhile
import Xacml.Signature

namespace Xacml

/-! ## Values before bags -/

/-- No function is among the datatypes, and no single value comes after a bag. -/
def Ordered (types : List Datatype) : Prop :=
  .function ∉ types ∧ types.Pairwise fun a b => a.isBag = true → b.isBag = true

/-- An ordered list is its single values and then its bags. -/
theorem Ordered.eq_append {types : List Datatype} (h : Ordered types) :
    types = (types.filterMap Datatype.type?).map .value ++
      (types.filterMap Datatype.element?).map .bag := by
  obtain ⟨hf, hp⟩ := h
  induction types with
  | nil => rfl
  | cons d rest ih =>
    obtain ⟨hd, hrest⟩ := List.pairwise_cons.1 hp
    have ih := ih (fun hm => hf (List.mem_cons_of_mem _ hm)) hrest
    cases d with
    | function => exact absurd List.mem_cons_self hf
    | value t => exact congrArg (Datatype.value t :: ·) ih
    | bag t =>
      -- after a bag there are only bags, so no single value is left to come first
      have hnone : rest.filterMap Datatype.type? = [] := by
        rw [List.filterMap_eq_nil_iff]
        intro b hb
        have := hd b hb rfl
        cases b <;> first | rfl | cases this
      rw [hnone] at ih
      simp only [List.filterMap_cons, Datatype.type?, Datatype.element?, hnone, List.map_nil,
        List.nil_append, List.map_cons]
      exact congrArg (Datatype.bag t :: ·) ih

namespace Signature

/-! ## The type of a position -/

/-- Past the parameters before the last, a variadic signature takes the last one everywhere. -/
theorem parameter?_variadicOf (init : List Datatype) (last : Datatype) (index : Nat) :
    (variadicOf (init ++ [last])).parameter? index = some (init[index]?.getD last) := by
  unfold parameter? variadicOf
  simp only [List.getLast?_concat, if_true]
  by_cases h : index < init.length
  · rw [List.getElem?_append_left h, List.getElem?_eq_getElem h]
    rfl
  · rw [List.getElem?_append_right (by omega), List.getElem?_eq_none (l := init) (by omega)]
    cases index - init.length <;> rfl

theorem parameter?_fixed (parameters : List Datatype) (index : Nat) :
    (fixed parameters).parameter? index = parameters[index]? := by
  unfold parameter? fixed
  cases parameters[index]? <;> rfl

theorem accepts_variadicOf (init : List Datatype) {last : Datatype} {types : List Datatype} :
    (variadicOf (init ++ [last])).Accepts types ↔
      ∃ n, types = init ++ List.replicate n last := by
  simp [Accepts, variadicOf]

theorem accepts_fixed {parameters types : List Datatype} :
    (fixed parameters).Accepts types ↔ types = parameters := Iff.rfl

/-- A signature with a parameter is fixed, or variadic in its last parameter. -/
theorem eq_fixed_or_variadicOf {s : Signature} (h : s.parameters ≠ []) :
    s = fixed s.parameters ∨ ∃ init last, s = variadicOf (init ++ [last]) := by
  obtain ⟨parameters, variadic⟩ := s
  cases variadic with
  | false => exact .inl rfl
  | true =>
    obtain rfl | ⟨init, last, rfl⟩ := List.eq_nil_or_concat parameters
    · exact absurd rfl h
    · exact .inr ⟨init, last, by simp [variadicOf]⟩

/-! ## The accepted lists -/

/-- A list is accepted if its length is, and each position has the parameter's type. -/
theorem accepts_iff {s : Signature} (hs : s.parameters ≠ []) {types : List Datatype} :
    s.Accepts types ↔ s.acceptsArity types.length = true ∧
      ∀ i t, types[i]? = some t → s.parameter? i = some t := by
  obtain h | ⟨init, last, rfl⟩ := eq_fixed_or_variadicOf hs
  · rw [h]
    generalize s.parameters = parameters
    have harity : (fixed parameters).acceptsArity types.length = true ↔
        types.length = parameters.length := by simp [acceptsArity, fixed]
    simp only [accepts_fixed, parameter?_fixed, harity]
    constructor
    · rintro rfl; exact ⟨rfl, fun _ _ h => h⟩
    · rintro ⟨hl, ht⟩
      refine List.ext_getElem hl fun i h₁ h₂ => ?_
      have := ht i _ (List.getElem?_eq_getElem h₁)
      rw [List.getElem?_eq_getElem h₂] at this
      exact (Option.some.inj this).symm
  · rw [accepts_variadicOf]
    simp only [parameter?_variadicOf, Option.some.injEq]
    have harity : (variadicOf (init ++ [last])).acceptsArity types.length = true ↔
        init.length ≤ types.length := by simp [acceptsArity, minArity, variadicOf]
    rw [harity]
    constructor
    · rintro ⟨n, rfl⟩
      refine ⟨by simp, fun i t h => ?_⟩
      by_cases hi : i < init.length
      · rw [List.getElem?_append_left hi] at h
        rw [h]; rfl
      · rw [List.getElem?_append_right (by omega)] at h
        rw [List.getElem?_eq_none (by omega)]
        exact (List.eq_of_mem_replicate (List.mem_of_getElem? h)).symm
    · rintro ⟨hl, ht⟩
      refine ⟨types.length - init.length, List.ext_getElem (by simp; omega) fun i h₁ h₂ => ?_⟩
      have := ht i _ (List.getElem?_eq_getElem h₁)
      by_cases hi : i < init.length
      · rw [List.getElem?_eq_getElem hi] at this
        rw [List.getElem_append_left hi]
        exact this.symm
      · rw [List.getElem?_eq_none (by omega)] at this
        rw [List.getElem_append_right (by omega), List.getElem_replicate]
        exact this.symm

/-- The parameters of a signature that has a shape are ordered. -/
theorem ordered_parameters {s : Signature} {shape : ArgumentShape} (h : s.shape = .ok shape) :
    s.parameters ≠ [] ∧ Ordered s.parameters := by
  unfold Signature.shape at h
  split at h
  · cases h
  rename_i first rest hs
  refine ⟨by rw [hs]; exact List.cons_ne_nil _ _, ?_⟩
  split at h
  · cases h
  rename_i hf
  refine ⟨by simpa using hf, ?_⟩
  split at h
  · -- bags alone
    rename_i hbags
    exact List.pairwise_of_forall_mem_list fun _ _ b hb _ => List.all_eq_true.1 hbags b hb
  split at h
  · -- the first bag splits the list into single values and bags
    split at h
    · rename_i hlast
      rw [← List.takeWhile_append_dropWhile (p := fun t : Datatype => !t.isBag) (l := s.parameters)]
      have hfront : ∀ a ∈ s.parameters.takeWhile fun t => !t.isBag, a.isBag = false := fun a ha => by
        simpa using List.mem_takeWhile_imp ha
      refine List.pairwise_append.2 ⟨?_, ?_, fun _ _ b hb _ => List.all_eq_true.1 hlast b hb⟩
      · refine List.pairwise_of_forall_mem_list fun a ha _ _ h => ?_
        rw [hfront a ha] at h; cases h
      · exact List.pairwise_of_forall_mem_list fun _ _ b hb _ => List.all_eq_true.1 hlast b hb
    · cases h
  · -- single values alone
    rename_i hnone
    refine List.pairwise_of_forall_mem_list fun a ha _ _ h => absurd ?_ hnone
    exact List.any_eq_true.2 ⟨a, ha, h⟩

/-- A signature that has a shape accepts only ordered lists. -/
theorem Accepts.ordered {s : Signature} {shape : ArgumentShape} (h : s.shape = .ok shape)
    {types : List Datatype} (ht : s.Accepts types) : Ordered types := by
  obtain ⟨hne, hf, hp⟩ := ordered_parameters h
  obtain hs | ⟨init, last, rfl⟩ := eq_fixed_or_variadicOf hne
  · rw [hs, accepts_fixed] at ht
    rw [ht]; exact ⟨hf, hp⟩
  · obtain ⟨n, rfl⟩ := (accepts_variadicOf _).1 ht
    obtain ⟨hinit, -, hcross⟩ := List.pairwise_append.1 hp
    have hmem : ∀ b ∈ List.replicate n last, b = last := fun b => List.eq_of_mem_replicate
    refine ⟨fun h => hf ?_, List.pairwise_append.2 ⟨hinit, ?_, fun a ha b hb => ?_⟩⟩
    · rcases List.mem_append.1 h with h | h
      · exact List.mem_append_left _ h
      · exact List.mem_append_right _ (List.mem_singleton.2 (hmem _ h))
    · refine List.pairwise_of_forall_mem_list fun a ha b hb h => ?_
      rw [hmem b hb, ← hmem a ha]; exact h
    · rw [hmem b hb]; exact hcross a ha last List.mem_cons_self

/-! ## The check of a call -/

theorem checkTypes_eq_ok_iff {s : Signature} {function : String} {count index : Nat}
    {types result : List Datatype} :
    s.checkTypes function count index types = .ok result ↔
      result = types ∧ ∀ i t, types[i]? = some t → s.parameter? (index + i) = some t := by
  induction types generalizing index result with
  | nil => simp [checkTypes, eq_comm]
  | cons got rest ih =>
    unfold checkTypes
    constructor
    · intro h
      split at h
      · cases h
      rename_i expected hp
      split at h
      · rename_i he
        subst he
        cases hr : s.checkTypes function count (index + 1) rest with
        | error e => rw [hr] at h; cases h
        | ok r =>
          rw [hr] at h
          cases h
          obtain ⟨rfl, hrest⟩ := ih.1 hr
          refine ⟨rfl, fun i t hi => ?_⟩
          cases i with
          | zero => cases hi; exact hp
          | succ i => rw [← hrest i t hi]; congr 1; omega
      · cases h
    · rintro ⟨rfl, h⟩
      have hhead : s.parameter? index = some got := h 0 got rfl
      have hrest : s.checkTypes function count (index + 1) rest = .ok rest := by
        refine ih.2 ⟨rfl, fun i t hi => ?_⟩
        rw [← h (i + 1) t hi]; congr 1; omega
      simp only [hhead, if_true, hrest]
      rfl

/-- What passes the check of a call is at each position of the parameter's type. -/
theorem parameter?_of_check {s : Signature} {function : String} {arguments result : List Datatype}
    {remaining : List AttributeType} (h : s.check function arguments remaining = .ok result) {i : Nat}
    {t : Datatype} (hi : (arguments ++ remaining.map .value)[i]? = some t) :
    s.parameter? i = some t := by
  unfold check at h
  dsimp only at h
  split at h
  · have hparameter := (checkTypes_eq_ok_iff.1 h).2 i t hi
    rwa [Nat.zero_add] at hparameter
  · cases h

/-- The check of a call accepts the language of the signature, and gives the list itself back. -/
theorem check_eq_ok_iff {s : Signature} (hs : s.parameters ≠ []) {function : String}
    {arguments : List Datatype} {remaining : List AttributeType} {result : List Datatype} :
    s.check function arguments remaining = .ok result ↔
      s.Accepts (arguments ++ remaining.map .value) ∧
        result = arguments ++ remaining.map .value := by
  rw [accepts_iff hs]
  unfold check
  generalize arguments ++ remaining.map Datatype.value = types
  dsimp only
  split
  · rename_i ha
    rw [checkTypes_eq_ok_iff]
    simp only [Nat.zero_add, ha, true_and]
    exact and_comm
  · rename_i ha
    simp [ha]

end Signature

end Xacml
