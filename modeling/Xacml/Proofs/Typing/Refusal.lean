/-
Which calls are refused, and why. A signature can be used if single values come before bags, and then
the check of a call refuses exactly what is not in the language of the signature: a list is too short or
too long if no accepted list has its length, and otherwise there is an accepted list of that length, and
the fault lies where the two first differ.
-/
import Xacml.Proofs.Typing.Signature

namespace Xacml

namespace Signature

variable {s : Signature} {function : String} {types accepted : List Datatype} {e : BuildError}

/-! ## Shape -/

/-- Ordered parameters have a shape. -/
theorem exists_shape (hne : s.parameters ≠ []) (h : Ordered s.parameters) :
    ∃ shape, s.shape = .ok shape := by
  obtain ⟨parameters, variadic⟩ := s
  dsimp only at hne h
  have hfunction : parameters.contains .function = false := by simpa using h.1
  -- after the single values in front there are only bags
  have hbags : (parameters.dropWhile fun t => !t.isBag).all Datatype.isBag = true := by
    have hvalues : ∀ d ∈ (parameters.filterMap Datatype.type?).map Datatype.value,
        (!d.isBag) = true := List.forall_mem_map.2 fun _ _ => rfl
    rw [h.eq_append, List.dropWhile_append_of_pos hvalues, List.all_eq_true]
    intro d hd
    obtain ⟨t, -, rfl⟩ := List.mem_map.1 ((List.dropWhile_sublist _).subset hd)
    rfl
  obtain ⟨first, rest, rfl⟩ := List.exists_cons_of_ne_nil hne
  unfold shape
  simp only [hfunction, hbags, Bool.false_eq_true, if_false, if_true]
  split
  · exact ⟨_, rfl⟩
  split
  · exact ⟨_, rfl⟩
  split <;> exact ⟨_, rfl⟩

theorem shape_isOk_iff :
    (∃ shape, s.shape = .ok shape) ↔ s.parameters ≠ [] ∧ Ordered s.parameters :=
  ⟨fun ⟨_, h⟩ => ordered_parameters h, fun ⟨hne, h⟩ => exists_shape hne h⟩

/-! ## Lengths -/

/-- The number of arguments is right if some accepted list has that length. -/
theorem acceptsArity_iff (hs : s.parameters ≠ []) {count : Nat} :
    s.acceptsArity count = true ↔ ∃ accepted, s.Accepts accepted ∧ accepted.length = count := by
  constructor
  · intro h
    obtain hfixed | ⟨init, last, rfl⟩ := eq_fixed_or_variadicOf hs
    · rw [hfixed] at h ⊢
      have hcount : count = s.parameters.length := by simpa [acceptsArity, fixed] using h
      exact ⟨s.parameters, accepts_fixed.2 rfl, hcount.symm⟩
    · have hle : init.length ≤ count := by simpa [acceptsArity, minArity, variadicOf] using h
      refine ⟨init ++ List.replicate (count - init.length) last, ?_, by simp; omega⟩
      exact (accepts_variadicOf init).2 ⟨_, rfl⟩
  · rintro ⟨accepted, h, rfl⟩
    exact ((accepts_iff hs).1 h).1

/-! ## Faults -/

/-- The first position at which two lists differ, and what they have there. -/
structure FirstDifference (accepted types : List Datatype) (i : Nat) (expected got : Datatype) :
    Prop where
  take_eq : accepted.take i = types.take i
  accepted_getElem? : accepted[i]? = some expected
  types_getElem? : types[i]? = some got
  ne : expected ≠ got

/-- What is wrong with a call whose arguments are of these datatypes. -/
inductive Refuses (s : Signature) (function : String) (types : List Datatype) : BuildError → Prop
  /-- No accepted list is so long. -/
  | arity : (∀ accepted, s.Accepts accepted → accepted.length ≠ types.length) →
      Refuses s function types (.arity function s.arity types.length)
  /-- An accepted list of the same length has another datatype somewhere. -/
  | argument {accepted : List Datatype} {i : Nat} {expected got : Datatype} :
      s.Accepts accepted → accepted.length = types.length →
      FirstDifference accepted types i expected got →
      Refuses s function types (.argumentType function i expected got)

section FirstDifference

variable {a b expected got : Datatype} {as bs : List Datatype} {i : Nat}

theorem firstDifference_zero :
    FirstDifference (a :: as) (b :: bs) 0 expected got ↔ a = expected ∧ b = got ∧ a ≠ b := by
  constructor
  · rintro ⟨-, ⟨⟩, ⟨⟩, h⟩
    exact ⟨rfl, rfl, h⟩
  · rintro ⟨rfl, rfl, h⟩
    exact ⟨rfl, rfl, rfl, h⟩

theorem firstDifference_succ :
    FirstDifference (a :: as) (b :: bs) (i + 1) expected got ↔
      a = b ∧ FirstDifference as bs i expected got := by
  constructor
  · rintro ⟨hsame, hexpected, hgot, h⟩
    rw [List.take_succ_cons, List.take_succ_cons] at hsame
    obtain ⟨rfl, hrest⟩ := List.cons.inj hsame
    exact ⟨rfl, hrest, hexpected, hgot, h⟩
  · rintro ⟨rfl, hsame, hexpected, hgot, h⟩
    exact ⟨congrArg (a :: ·) hsame, hexpected, hgot, h⟩

end FirstDifference

/-- Against an accepted list of the same length, the fault is the first difference. -/
theorem checkTypes_eq_error_iff {count index : Nat} (hlength : accepted.length = types.length)
    (hparameter : ∀ i t, accepted[i]? = some t → s.parameter? (index + i) = some t) :
    s.checkTypes function count index types = .error e ↔
      ∃ i expected got, FirstDifference accepted types i expected got ∧
        e = .argumentType function (index + i) expected got := by
  induction types generalizing accepted index with
  | nil =>
    refine iff_of_false nofun ?_
    rintro ⟨i, expected, got, h, -⟩
    cases h.types_getElem?
  | cons b types ih =>
    obtain ⟨a, accepted, rfl⟩ := List.exists_cons_of_length_eq_add_one hlength
    have hfirst : s.parameter? index = some a := hparameter 0 a rfl
    have hrest := ih (Nat.succ.inj hlength) fun i t hi => show s.parameter? (index + 1 + i) = some t by
      rw [Nat.add_assoc, Nat.add_comm 1]
      exact hparameter (i + 1) t hi
    rw [checkTypes, hfirst]
    dsimp only
    by_cases hsame : a = b
    · -- the first datatypes agree, so that the difference is further on
      have herror : (s.checkTypes function count (index + 1) types).map (a :: ·) = .error e ↔
          s.checkTypes function count (index + 1) types = .error e := by
        cases s.checkTypes function count (index + 1) types <;> simp [Except.map]
      rw [if_pos hsame, herror, hrest]
      constructor
      · rintro ⟨i, expected, got, h, rfl⟩
        refine ⟨i + 1, expected, got, firstDifference_succ.2 ⟨hsame, h⟩, ?_⟩
        rw [Nat.add_assoc, Nat.add_comm 1]
      · rintro ⟨i, expected, got, h, rfl⟩
        cases i with
        | zero => exact absurd hsame (firstDifference_zero.1 h).2.2
        | succ i =>
          refine ⟨i, expected, got, (firstDifference_succ.1 h).2, ?_⟩
          rw [Nat.add_assoc, Nat.add_comm 1]
    · rw [if_neg hsame]
      constructor
      · rintro ⟨⟩
        exact ⟨0, a, b, firstDifference_zero.2 ⟨rfl, rfl, hsame⟩, rfl⟩
      · rintro ⟨i, expected, got, h, rfl⟩
        cases i with
        | zero =>
          obtain ⟨rfl, rfl, -⟩ := firstDifference_zero.1 h
          rfl
        | succ i => exact absurd (firstDifference_succ.1 h).1 hsame

/-- The check of a call fails with just the fault that the call has. -/
theorem check_eq_error_iff (hs : s.parameters ≠ []) {arguments : List Datatype}
    {remaining : List AttributeType} :
    s.check function arguments remaining = .error e ↔
      s.Refuses function (arguments ++ remaining.map .value) e := by
  have hparameter {accepted : List Datatype} (h : s.Accepts accepted) (i : Nat) (t : Datatype)
      (hi : accepted[i]? = some t) : s.parameter? (0 + i) = some t := by
    rw [Nat.zero_add]
    exact ((accepts_iff hs).1 h).2 i t hi
  unfold check
  generalize arguments ++ remaining.map Datatype.value = types
  dsimp only
  split
  · rename_i harity
    obtain ⟨accepted, haccepts, hlength⟩ := (acceptsArity_iff hs).1 harity
    constructor
    · intro h
      obtain ⟨i, expected, got, hfirst, rfl⟩ :=
        (checkTypes_eq_error_iff hlength (hparameter haccepts)).1 h
      rw [Nat.zero_add]
      exact .argument haccepts hlength hfirst
    · rintro (hnone | ⟨haccepts', hlength', hfirst⟩)
      · exact absurd hlength (hnone accepted haccepts)
      · refine (checkTypes_eq_error_iff hlength' (hparameter haccepts')).2 ⟨_, _, _, hfirst, ?_⟩
        rw [Nat.zero_add]
  · rename_i harity
    have hnone : ∀ accepted, s.Accepts accepted → accepted.length ≠ types.length :=
      fun accepted h hlength => harity ((acceptsArity_iff hs).2 ⟨accepted, h, hlength⟩)
    constructor
    · rintro ⟨⟩
      exact .arity hnone
    · rintro (_ | ⟨haccepts, hlength, -⟩)
      · rfl
      · exact absurd hlength (hnone _ haccepts)

/-! ## Positions -/

/-- Wherever a single value stands in an accepted list, the parameters up to there are single values. -/
theorem parameter?_upTo_value {shape : ArgumentShape} (hs : s.shape = .ok shape)
    (h : s.Accepts types) {i j : Nat} {t : AttributeType} (hi : types[i]? = some (.value t))
    (hj : j ≤ i) : ∃ u, s.parameter? j = some (.value u) := by
  obtain ⟨hi, htype⟩ := List.getElem?_eq_some_iff.1 hi
  obtain ⟨hfunction, hordered⟩ := h.ordered hs
  have hparameter := ((accepts_iff (ordered_parameters hs).1).1 h).2
  have hj' : j < types.length := by omega
  rw [hparameter j types[j] (List.getElem?_eq_getElem hj')]
  cases hd : types[j] with
  | value u => exact ⟨u, rfl⟩
  | function => exact absurd (hd ▸ List.getElem_mem hj') hfunction
  | bag u =>
    rcases Nat.lt_or_eq_of_le hj with hlt | rfl
    · have hbag := List.pairwise_iff_getElem.1 hordered j i hj' hi hlt (by rw [hd]; rfl)
      rw [htype] at hbag
      cases hbag
    · cases hd.symm.trans htype

/-- A signature has a shape just if there are parameters, no function among them, and no single value
after a bag. Then the check of a call succeeds just on the accepted lists, which it gives back; it fails
with the number of arguments if no accepted list is so long, and else with the first position that
differs from the accepted list of that length. An accepted call is single values and then bags, and a
value that is only given later stands where every parameter so far is a single value. -/
theorem check_exact (s : Signature) :
    ((∃ shape, s.shape = .ok shape) ↔ s.parameters ≠ [] ∧ Ordered s.parameters) ∧
    ∀ shape, s.shape = .ok shape → ∀ (function : String) (arguments : List Datatype)
      (remaining : List AttributeType),
      let types := arguments ++ remaining.map .value
      (∀ result, s.check function arguments remaining = .ok result ↔
        s.Accepts types ∧ result = types) ∧
      (∀ e, s.check function arguments remaining = .error e ↔ s.Refuses function types e) ∧
      (s.Accepts types →
        (∃ values bags : List AttributeType, types = values.map .value ++ bags.map .bag) ∧
        ∀ i, arguments.length ≤ i → i < types.length → ∀ j ≤ i,
          ∃ t, s.parameter? j = some (.value t)) := by
  refine ⟨shape_isOk_iff, fun shape hshape function arguments remaining => ?_⟩
  have hne := (ordered_parameters hshape).1
  refine ⟨fun result => check_eq_ok_iff hne, fun e => check_eq_error_iff hne, fun h => ⟨?_, ?_⟩⟩
  · exact ⟨_, _, (h.ordered hshape).eq_append⟩
  · intro i hge hlt j hj
    obtain ⟨t, ht⟩ : ∃ t, (arguments ++ remaining.map Datatype.value)[i]? = some (.value t) := by
      rw [List.getElem?_append_right hge, List.getElem?_map]
      have hi : i - arguments.length < remaining.length := by
        rw [List.length_append, List.length_map] at hlt
        omega
      exact ⟨_, by rw [List.getElem?_eq_getElem hi]; rfl⟩
    exact parameter?_upTo_value hshape h ht hj

/-- A string and then any number of bags of strings: the bags may be left out, and a string that is given
later cannot stand in the place of one. -/
theorem check_exact_optional_bag :
    (variadicOf [.string, .bag .string]).shape = .ok .valuesThenBags ∧
    (variadicOf [.string, .bag .string]).check "f" [] [.string] = .ok [.string] ∧
    (variadicOf [.string, .bag .string]).check "f" [.string] [.string] =
      .error (.argumentType "f" 1 (.bag .string) .string) ∧
    (variadicOf [.string, .bag .string]).check "f" [] [] = .error (.arity "f" (.atLeast 1) 0) := by
  have hshape : (variadicOf [.string, .bag .string]).shape = .ok .valuesThenBags := rfl
  have hexact := (check_exact (variadicOf [.string, .bag .string])).2 _ hshape "f"
  have haccepts (n : Nat) : (variadicOf [.string, .bag .string]).Accepts
      (.string :: List.replicate n (.bag .string)) := (accepts_variadicOf [.string]).2 ⟨n, rfl⟩
  refine ⟨hshape, ((hexact [] [.string]).1 _).2 ⟨haccepts 0, rfl⟩, ?_, ?_⟩
  · refine ((hexact [.string] [.string]).2.1 _).2 (.argument (haccepts 1) rfl ?_)
    exact ⟨rfl, rfl, rfl, nofun⟩
  · refine ((hexact [] []).2.1 _).2 (.arity fun accepted h => ?_)
    obtain ⟨n, rfl⟩ := (accepts_variadicOf [.string]).1 h
    exact nofun

end Signature

end Xacml
