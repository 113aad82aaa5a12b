/-
The readings of an odometer. From the start it shows every combination of one value of each list,
each once: the positions at which its wheels stand are all there are, in lexicographic order, so that
the last wheel is the fastest and none is skipped or comes back. A search through the readings is
therefore the search through the list of the combinations, and it ends.
-/
import Mathlib.Data.List.Forall2
import Mathlib.Data.List.Lex
import Xacml.Proofs.Evaluation.Seek

namespace Xacml

variable {α β : Type}

namespace Odometer

open Eval

/-! ## From the start -/

theorem start?_cons (domain : List α) (rest : List (List α)) :
    start? (domain :: rest) = (Wheel.start? domain).bind fun w => (start? rest).map (w :: ·) := by
  unfold start?
  rw [List.mapM_cons]
  cases Wheel.start? domain with
  | none => rfl
  | some w =>
    cases rest.mapM Wheel.start? <;> rfl

/-- At the start every combination is still to come. -/
theorem readings_of_start? {domains : List (List α)} {o : Odometer α} (h : start? domains = some o) :
    readings o = combinations domains ∧ o.map Wheel.values = domains := by
  induction domains generalizing o with
  | nil =>
    cases h
    exact ⟨rfl, rfl⟩
  | cons domain rest ih =>
    rw [start?_cons] at h
    cases domain with
    | nil => cases h
    | cons a others =>
      obtain ⟨wheels, hwheels, rfl⟩ := Option.map_eq_some_iff.1 h
      obtain ⟨hreadings, hvalues⟩ := ih hwheels
      constructor
      · rw [readings, hreadings, hvalues]
        rfl
      · rw [List.map_cons, hvalues]

/-- Where there is no start, there is no combination. -/
theorem combinations_eq_nil_of_start? {domains : List (List α)} (h : start? domains = none) :
    combinations domains = [] := by
  induction domains with
  | nil => cases h
  | cons domain rest ih =>
    rw [start?_cons] at h
    cases domain with
    | nil => rfl
    | cons a others =>
      have hrest : start? rest = none := Option.map_eq_none_iff.1 h
      rw [combinations, ih hrest, List.flatMap_eq_nil_iff]
      intro _ _
      rfl

/-! ## The search -/

/-- A search by turns is the search through the readings. -/
theorem search_eq_seek (p : List α → Eval Bool) (o : Odometer α) :
    search p o = seek true p (readings o) := by
  induction hn : (readings o).length using Nat.strong_induction_on generalizing o with
  | _ n ih =>
    subst hn
    rw [search]
    conv_rhs => rw [readings_eq, seek]
    congr 1
    funext b
    cases b with
    | true => rfl
    | false =>
      rw [if_neg Bool.false_ne_true, if_neg Bool.false_ne_true]
      split
      · rename_i turned hturned
        refine (ih _ (length_readings_lt hturned) turned rfl).trans ?_
        rw [hturned]
      · rename_i hnone
        rw [hnone]
        rfl

/-! ## Positions -/

/-- The positions at which wheels with these values can stand together, in lexicographic order. -/
def places (domains : List (List α)) : List (List Nat) :=
  combinations (domains.map fun domain => List.range domain.length)

/-- The values at positions. -/
def pick [Inhabited α] (domains : List (List α)) (place : List Nat) : List α :=
  List.zipWith (fun domain i => domain.getD i default) domains place

theorem mem_combinations {domains : List (List α)} {as : List α} :
    as ∈ combinations domains ↔ List.Forall₂ (· ∈ ·) as domains := by
  induction domains generalizing as with
  | nil => rw [combinations, List.mem_singleton, List.forall₂_nil_right_iff]
  | cons domain rest ih =>
    rw [combinations, List.mem_flatMap]
    constructor
    · rintro ⟨a, ha, has⟩
      obtain ⟨tail, htail, rfl⟩ := List.mem_map.1 has
      exact .cons ha (ih.1 htail)
    · rintro (_ | ⟨ha, htail⟩)
      exact ⟨_, ha, List.mem_map.2 ⟨_, ih.2 htail, rfl⟩⟩

/-- Of single values there is nothing to choose. -/
theorem combinations_singletons (as : List α) (domains : List (List α)) :
    combinations (as.map ([·]) ++ domains) = (combinations domains).map (as ++ ·) := by
  induction as with
  | nil => exact (List.map_id _).symm
  | cons a rest ih =>
    rw [List.map_cons, List.cons_append, combinations, List.flatMap_singleton, ih, List.map_map]
    rfl

/-- Among single values, one domain alone tells the combinations apart. -/
theorem combinations_around (before : List α) (domain : List α) (after : List α) :
    combinations (before.map ([·]) ++ domain :: after.map ([·])) =
      domain.map fun a => before ++ a :: after := by
  have hafter : combinations (after.map ([·])) = [after] := by
    rw [← List.append_nil (after.map _), combinations_singletons]
    exact congrArg ([·]) (List.append_nil after)
  rw [combinations_singletons, combinations, hafter]
  simp only [List.map_singleton, List.map_flatMap]
  exact List.flatMap_pure_eq_map _ _

/-- They are all there are. -/
theorem mem_places {domains : List (List α)} {place : List Nat} :
    place ∈ places domains ↔ List.Forall₂ (fun i domain => i < domain.length) place domains := by
  rw [places, mem_combinations, List.forall₂_map_right_iff]
  simp only [List.mem_range]

/-- Each comes once, after those that are smaller. -/
theorem pairwise_places (domains : List (List α)) : (places domains).Pairwise (· < ·) := by
  induction domains with
  | nil => exact List.pairwise_singleton _ _
  | cons domain rest ih =>
    rw [places, List.map_cons, combinations, List.pairwise_flatMap]
    constructor
    · intro i _
      rw [List.pairwise_map]
      exact ih.imp fun h => List.cons_lt_cons_iff.2 (.inr ⟨rfl, h⟩)
    · refine List.pairwise_lt_range.imp fun {i j} hij => ?_
      simp only [List.forall_mem_map]
      intro _ _ _ _
      exact List.cons_lt_cons_iff.2 (.inl hij)

/-- The last position moves fastest. -/
example : places [['a', 'b'], ['c'], ['d', 'e']] = [[0, 0, 0], [0, 0, 1], [1, 0, 0], [1, 0, 1]] := by
  rfl

theorem flatMap_eq_range [Inhabited α] (as : List α) (f : α → List β) :
    as.flatMap f = (List.range as.length).flatMap fun i => f (as.getD i default) := by
  have has : as = (List.range as.length).map fun i => as.getD i default := by
    refine List.ext_getElem (by simp) fun i h h' => ?_
    simp [List.getElem?_eq_getElem h]
  conv_lhs => rw [has]
  rw [List.flatMap_map]

/-- The combinations are the values at the positions. -/
theorem combinations_eq_places [Inhabited α] (domains : List (List α)) :
    combinations domains = (places domains).map (pick domains) := by
  induction domains with
  | nil => rfl
  | cons domain rest ih =>
    rw [places, List.map_cons, combinations, combinations, flatMap_eq_range, List.map_flatMap, ih]
    congr 1
    funext i
    rw [List.map_map, List.map_map]
    rfl

end Odometer

/-! ## Calls -/

/-- To evaluate `any-of-any` is to search through the combinations of what its arguments
contribute. -/
theorem runEveryCombination_eq (c : Combinator) (g : FirstOrderFunction) (operands : List Operand) :
    runEveryCombination c g operands = evaluateDomains c.id 1 operands >>= fun domains =>
      Eval.seek true (subTest c.id g [] (operands.filterMap (·.toStatic.element?)))
        (Odometer.combinations domains) >>= fun b => pure (.ofBool b) := by
  unfold runEveryCombination
  dsimp only
  congr 1
  funext domains
  cases h : Odometer.start? domains with
  | none =>
    rw [Odometer.combinations_eq_nil_of_start? h]
    rfl
  | some o =>
    dsimp only
    rw [Odometer.search_eq_seek, (Odometer.readings_of_start? h).1]

end Xacml
