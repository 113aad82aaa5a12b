/-
What bags are like that were made by the operations there are for making them. However these are
combined, a bag holds its values as befits their number, says why it is empty only if it is, and
holds values of its element type only. Two operations are handed values that may be of other types:
the checked constructor refuses them, and a union of them stops the program.
-/
import Xacml.Proofs.Typing.Leaf

namespace Xacml

open Eval

namespace Bag

/-! ## Making bags -/

/-- The bags that the operations make, of requests, selectors and calls as they are evaluated and of
one another. -/
inductive Produced : Bag → Prop
  | checked {t : AttributeType} {values : List AttributeValue} {b : Bag} :
      checked t values = .ok b → Produced b
  | singleton (v : AttributeValue) : Produced (singleton v)
  | empty (t : AttributeType) : Produced (empty t)
  | emptyBecause (t : AttributeType) (reason : Failure) : Produced (emptyBecause t reason)
  | intersection {a b : Bag} : Produced a → Produced b → Produced (a.intersection b)
  | union {t : AttributeType} {bags : List Bag} {b : Bag} : (∀ a ∈ bags, Produced a) →
      union t bags = some b → Produced b
  | lookup {r : Request} {name : AttributeName} {t : AttributeType} {found : AttributeBag} :
      r.attributeBag? name t = some found → Produced found.bag
  | selected {s : Selector} {ctx : Option Context} {b : Bag} : s.answer ctx = .ok b → Produced b
  | made {t : AttributeType} {operands : List Operand} {types : List AttributeType}
      {given : List AttributeValue} {cache : Pattern.Cache} {b : Bag} :
      ((Library.makeBag t).run operands types given cache).result = .ok (.bag b) → Produced b
  | mapped {operands : List Operand} {cache : Pattern.Cache} {b : Bag} :
      (Combinator.map.run operands cache).result = .ok (.bag b) → Produced b

/-- Contents that are held as befits their number. -/
def MatchesSize (b : Bag) : Prop :=
  match b.contents with
  | .empty _ => b.size = 0
  | .single _ => b.size = 1
  | .multi _ => 2 ≤ b.size

/-! ## Bags of lists -/

theorem matchesSize_ofList {t : AttributeType} {vs : List AttributeValue}
    (h : ∀ v ∈ vs, v.type = t) : (ofList t vs h).MatchesSize := by
  rcases vs with _ | ⟨v, _ | ⟨w, rest⟩⟩
  · rfl
  · rfl
  · exact Nat.le_add_left 2 rest.length

theorem matchesSize_of_checked {t : AttributeType} {vs : List AttributeValue} {b : Bag}
    (h : checked t vs = .ok b) : b.MatchesSize := by
  obtain ⟨htypes, rfl⟩ := checked_eq_ok_iff.1 h
  exact matchesSize_ofList htypes

theorem matchesSize_of_union {t : AttributeType} {bags : List Bag} {b : Bag}
    (h : union t bags = some b) : b.MatchesSize := by
  obtain ⟨htypes, rfl⟩ := ofList?_eq_some_iff.1 h
  exact matchesSize_ofList htypes

/-! ## Bags that are evaluated -/

/-- A value that, if it is a bag, is held as befits its size. -/
def IfBag (v : Value) : Prop := ∀ b, v = .bag b → b.MatchesSize

theorem settles_checked (t : AttributeType) (vs : List AttributeValue) :
    Settles MatchesSize (fun _ => True) (checked t vs) :=
  settles_iff.2 ⟨fun _ => matchesSize_of_checked, fun _ _ => trivial⟩

/-- Whatever its arguments, the function that makes a bag of them checks them. -/
theorem makeBag_ensures (t : AttributeType) (operands : List Operand) (types : List AttributeType)
    (given : List AttributeValue) :
    ((Library.makeBag t).run operands types given).Ensures (fun _ => True) IfBag (fun _ => True) := by
  refine (ensures_trivial _).bind fun _ _ => (ensures_trivial _).bind fun evaluated _ => ?_
  refine (ensures_trivial _).bind fun _ _ =>
    (ensures_done (F := fun _ => True) ?_).mapFailure fun _ _ => trivial
  refine (settles_checked t _).map ?_
  rintro b hb _ ⟨⟩
  exact hb

theorem runOneBag_map_ensures (g : FirstOrderFunction) (operands : List Operand) :
    (runOneBag .map g operands).Ensures (fun _ => True) IfBag (fun _ => True) := by
  refine (ensures_trivial _).bind fun slots _ => (ensures_trivial _).bind fun answers _ => ?_
  cases g.returns with
  | value t =>
    refine (ensures_done (settles_checked t answers)).bind fun b hb => ensures_pure ?_
    rintro _ ⟨⟩
    exact hb
  | _ => exact ensures_fail trivial

/-- So does `map` with the answers of its function. -/
theorem map_ensures (operands : List Operand) :
    (Combinator.map.run operands).Ensures (fun _ => True) IfBag (fun _ => True) := by
  unfold Combinator.run
  split
  · exact runOneBag_map_ensures _ _
  · exact ensures_fail trivial

theorem requirePresent_eq_ok {mustBePresent : Bool} {label : String} {b b' : Bag}
    (h : requirePresent mustBePresent label b = .ok b') : b' = b := by
  unfold requirePresent at h
  split at h <;> cases h
  rfl

/-- A selector answers with the values that it has read, or has none and says why. -/
theorem matchesSize_of_selected {s : Selector} {ctx : Option Context} {b : Bag}
    (h : s.answer ctx = .ok b) : b.MatchesSize := by
  unfold Selector.answer at h
  cases ctx with
  | none => cases h
  | some c =>
    simp only [ok_bind] at h
    obtain ⟨found, hfound, h⟩ := bind_eq_ok.1 h
    obtain rfl := requirePresent_eq_ok h
    unfold Selector.selected at hfound
    cases hcontent : c.content s.category with
    | none =>
      rw [hcontent] at hfound
      cases hfound
      rfl
    | some content =>
      rw [hcontent] at hfound
      obtain ⟨path, -, hfound⟩ := bind_eq_ok.1 hfound
      obtain ⟨texts, -, hfound⟩ := bind_eq_ok.1 hfound
      obtain ⟨values, hvalues, rfl⟩ := readFound_eq_ok hfound
      exact matchesSize_ofList hvalues

theorem matchesSize_of_lookup {r : Request} {name : AttributeName} {t : AttributeType}
    {found : AttributeBag} (h : r.attributeBag? name t = some found) : found.bag.MatchesSize := by
  unfold Request.attributeBag? at h
  split at h <;> cases h
  refine matchesSize_ofList (t := t) fun v hv => ?_
  exact eq_of_beq (List.mem_filter.1 hv).2

/-! ## All bags -/

theorem Produced.matchesSize {b : Bag} (h : Produced b) : b.MatchesSize := by
  cases h with
  | checked h => exact matchesSize_of_checked h
  | singleton v => rfl
  | empty t => rfl
  | emptyBecause t reason => rfl
  | intersection _ _ => exact matchesSize_ofList _
  | union _ h => exact matchesSize_of_union h
  | lookup h => exact matchesSize_of_lookup h
  | selected h => exact matchesSize_of_selected h
  | @made t operands types given cache b h =>
    exact (settles_iff.1 (makeBag_ensures t operands types given cache).1).1 _ h b rfl
  | @mapped operands cache b h =>
    exact (settles_iff.1 (map_ensures operands cache).1).1 _ h b rfl

/-- However a bag is made, it holds its values as befits their number, says why it is empty only if
it is, and all its values are of its element type: values that are checked make a bag, and bags that
are joined have a union, just if all the values are of the type that is named. -/
theorem Produced.well_formed {b : Bag} (h : Produced b) :
    b.MatchesSize ∧ (∀ reason, b.reason? = some reason → b.size = 0) ∧
      (∀ v ∈ b.values, v.type = b.element) ∧
      (∀ t values, (∃ made, Bag.checked t values = .ok made) ↔ ∀ v ∈ values, v.type = t) ∧
      ∀ t bags, (∃ made, Bag.union t bags = some made) ↔
        ∀ a ∈ bags, ∀ v ∈ a.values, v.type = t :=
  ⟨h.matchesSize, fun _ hr => congrArg List.length (values_eq_nil_of_reason? hr),
    fun _ => type_of_mem, fun _ _ => exists_checked_iff, fun _ _ => exists_union_iff⟩

/-- An integer and two more; a string among them would stop the program. -/
theorem well_formed_union :
    ∃ b : Bag, Produced b ∧ b.size = 3 ∧
      union .integer [b, singleton (.string "x")] = none ∧
      b.MatchesSize ∧ (∀ reason, b.reason? = some reason → b.size = 0) ∧
      (∀ v ∈ b.values, v.type = b.element) ∧
      (∀ t values, (∃ made, checked t values = .ok made) ↔ ∀ v ∈ values, v.type = t) ∧
      ∀ t bags, (∃ made, union t bags = some made) ↔ ∀ a ∈ bags, ∀ v ∈ a.values, v.type = t := by
  let one : Bag := singleton (.integer 1)
  let two : Bag := ofList .integer [.integer 2, .integer 3] (by decide)
  let all : Bag := ofList .integer [.integer 1, .integer 2, .integer 3] (by decide)
  have htwo : checked .integer [.integer 2, .integer 3] = .ok two := rfl
  have hunion : union .integer [one, two] = some all := by decide
  have hproduced : Produced all := by
    refine .union ?_ hunion
    rw [List.forall_mem_cons, List.forall_mem_singleton]
    exact ⟨.singleton _, .checked htwo⟩
  exact ⟨all, hproduced, rfl, by decide, hproduced.well_formed⟩

end Bag

end Xacml
