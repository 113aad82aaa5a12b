/-
Every function of the standard library keeps to its declaration: on arguments that fit its
signature, a kernel answers with a value of the declared datatype or fails with a fault of the
values, and the functions without a kernel have the parameters that their evaluation counts on.
-/
import Xacml.Library.Standard
import Xacml.Proofs.Typing.Signature
import Xacml.Proofs.Typing.Value

namespace Xacml

/-! ## Keeping to a declaration -/

/-- A function keeps to its declaration, one case for each kind of body. -/
inductive FirstOrder.WellTyped (f : FirstOrderFunction) : Prop
  | kernel {kind : KernelKind} {run : Arguments → Except Failure Value} :
      f.body = .kernel kind run → (∃ shape, f.signature.shape = .ok shape) →
      (∀ a, a.Fits f.signature → Settles (·.HasType f.returns) Failure.IsFault (run a)) →
      WellTyped f
  | junction {c : Connective} : f.body = .connective c → c ≠ .nOf → f.returns = .boolean →
      f.signature = .variadicOf [.boolean] → WellTyped f
  | counting : f.body = .connective .nOf → f.returns = .boolean →
      f.signature = .variadicOf [.integer, .boolean] → WellTyped f
  | matching {subject : AttributeType} : f.body = .matching → f.returns = .boolean →
      f.signature = .fixed [.string, .value subject] → subject = .string ∨ subject = .anyURI →
      WellTyped f

/-! ## Arguments that fit -/

namespace Arguments

/-- A list of arguments of a signature of single values alone has no bag. -/
theorem eq_of_types_values (vs : List AttributeType) {a : Arguments}
    (h : a.types = vs.map .value) : a.bags = [] ∧ a.values.map AttributeValue.type = vs := by
  have hb : a.bags = [] := by
    rcases hbs : a.bags with _ | ⟨b, rest⟩
    · rfl
    · have : Datatype.bag b.element ∈ vs.map Datatype.value := by
        rw [← h, types, hbs]; simp
      simp at this
  refine ⟨hb, ?_⟩
  rw [types, hb, List.map_nil, List.append_nil] at h
  have := congrArg (List.filterMap Datatype.type?) h
  simpa [List.filterMap_map, Function.comp_def, Datatype.type?] using this

/-- A list of arguments of a signature of bags alone has no single value. -/
theorem eq_of_types_bags (bs : List AttributeType) {a : Arguments}
    (h : a.types = bs.map .bag) : a.values = [] ∧ a.bags.map Bag.element = bs := by
  have hv : a.values = [] := by
    rcases hvs : a.values with _ | ⟨v, rest⟩
    · rfl
    · have : Datatype.value v.type ∈ bs.map Datatype.bag := by
        rw [← h, types, hvs]; simp
      simp at this
  refine ⟨hv, ?_⟩
  rw [types, hv, List.map_nil, List.nil_append] at h
  have := congrArg (List.filterMap Datatype.element?) h
  simpa [List.filterMap_map, Function.comp_def, Datatype.element?] using this

end Arguments

namespace Library

/-! ## Builders -/

section Builders

variable {id : String} {returns : Datatype} {t u v : AttributeType}

theorem unary_wellTyped {run : AttributeValue → Except Failure Value}
    (h : ∀ a : AttributeValue, a.type = t → Settles (·.HasType returns) Failure.IsFault (run a)) :
    (unary id returns t run).WellTyped := by
  refine .kernel rfl ⟨_, rfl⟩ fun ⟨values, bags⟩ hargs => ?_
  obtain ⟨-, hv⟩ := Arguments.eq_of_types_values [t] hargs
  obtain ⟨a, rfl, ha⟩ := List.map_eq_singleton_iff.1 hv
  exact h a ha

theorem binary_wellTyped {run : AttributeValue → AttributeValue → Except Failure Value}
    (h : ∀ a b : AttributeValue, a.type = t → b.type = t →
      Settles (·.HasType returns) Failure.IsFault (run a b)) :
    (binary id returns t run).WellTyped := by
  refine .kernel rfl ⟨_, rfl⟩ fun ⟨values, bags⟩ hargs => ?_
  obtain ⟨-, hv⟩ := Arguments.eq_of_types_values [t, t] hargs
  obtain ⟨a, _, rfl, ha, hv⟩ := List.map_eq_cons_iff.1 hv
  obtain ⟨b, rfl, hb⟩ := List.map_eq_singleton_iff.1 hv
  exact h a b ha hb

theorem binaryMixed_wellTyped {run : AttributeValue → AttributeValue → Except Failure Value}
    (h : ∀ a b : AttributeValue, a.type = t → b.type = u →
      Settles (·.HasType returns) Failure.IsFault (run a b)) :
    (binaryMixed id returns t u run).WellTyped := by
  refine .kernel rfl ⟨_, rfl⟩ fun ⟨values, bags⟩ hargs => ?_
  obtain ⟨-, hv⟩ := Arguments.eq_of_types_values [t, u] hargs
  obtain ⟨a, _, rfl, ha, hv⟩ := List.map_eq_cons_iff.1 hv
  obtain ⟨b, rfl, hb⟩ := List.map_eq_singleton_iff.1 hv
  exact h a b ha hb

theorem ternaryMixed_wellTyped
    {run : AttributeValue → AttributeValue → AttributeValue → Except Failure Value}
    (h : ∀ a b c : AttributeValue, a.type = t → b.type = u → c.type = v →
      Settles (·.HasType returns) Failure.IsFault (run a b c)) :
    (ternaryMixed id returns t u v run).WellTyped := by
  refine .kernel rfl ⟨_, rfl⟩ fun ⟨values, bags⟩ hargs => ?_
  obtain ⟨-, hv⟩ := Arguments.eq_of_types_values [t, u, v] hargs
  obtain ⟨a, _, rfl, ha, hv⟩ := List.map_eq_cons_iff.1 hv
  obtain ⟨b, _, rfl, hb, hv⟩ := List.map_eq_cons_iff.1 hv
  obtain ⟨c, rfl, hc⟩ := List.map_eq_singleton_iff.1 hv
  exact h a b c ha hb hc

/-- Parameters that are single values, and at least one, have a shape. -/
theorem shape_values (first : AttributeType) (rest : List AttributeType) (variadic : Bool) :
    ∃ shape, (⟨(first :: rest).map .value, variadic⟩ : Signature).shape = .ok shape := by
  have hf : ((first :: rest).map Datatype.value).contains .function = false := by simp
  have hany : ((first :: rest).map Datatype.value).any Datatype.isBag = false := by
    rw [List.any_map]; exact List.any_eq_false.2 fun _ _ h => by cases h
  have hall : ((first :: rest).map Datatype.value).all Datatype.isBag = false := rfl
  rw [List.map_cons] at hf hany hall ⊢
  unfold Signature.shape
  simp only [hf, hany, hall]
  exact ⟨_, rfl⟩

theorem variadic_wellTyped {least : Nat} {run : List AttributeValue → Except Failure Value}
    (h : ∀ values : List AttributeValue, (∀ a ∈ values, a.type = t) →
      Settles (·.HasType returns) Failure.IsFault (run values)) :
    (variadic id returns t least run).WellTyped := by
  refine .kernel rfl ?_ fun args hargs => ?_
  · have := shape_values t (List.replicate least t) true
    rwa [List.map_cons, List.map_replicate, ← List.replicate_succ] at this
  · have hacc : (Signature.variadicOf (List.replicate least (.value t) ++ [.value t])).Accepts
        args.types := by rw [← List.replicate_succ']; exact hargs
    obtain ⟨n, hn⟩ := (Signature.accepts_variadicOf _).1 hacc
    rw [← List.replicate_add, ← List.map_replicate] at hn
    obtain ⟨-, hv⟩ := Arguments.eq_of_types_values _ hn
    refine h args.values fun a ha => List.eq_of_mem_replicate (n := least + n) ?_
    rw [← hv]; exact List.mem_map_of_mem ha

theorem ofBag_wellTyped {run : Bag → Except Failure Value}
    (h : ∀ b : Bag, b.element = t → Settles (·.HasType returns) Failure.IsFault (run b)) :
    (ofBag id returns t run).WellTyped := by
  refine .kernel rfl ⟨_, rfl⟩ fun ⟨values, bags⟩ hargs => ?_
  obtain ⟨-, hb⟩ := Arguments.eq_of_types_bags [t] hargs
  obtain ⟨b, rfl, ht⟩ := List.map_eq_singleton_iff.1 hb
  exact h b ht

theorem ofTwoBags_wellTyped {run : Bag → Bag → Value}
    (h : ∀ a b : Bag, a.element = t → (run a b).HasType returns) :
    (ofTwoBags id returns t run).WellTyped := by
  refine .kernel rfl ⟨_, rfl⟩ fun ⟨values, bags⟩ hargs => ?_
  obtain ⟨-, hb⟩ := Arguments.eq_of_types_bags [t, t] hargs
  obtain ⟨a, _, rfl, ha, hb⟩ := List.map_eq_cons_iff.1 hb
  obtain ⟨b, rfl, -⟩ := List.map_eq_singleton_iff.1 hb
  exact h a b ha

theorem ofManyBags_wellTyped {run : List Bag → Except Failure Value}
    (h : ∀ bags : List Bag, (∀ b ∈ bags, b.element = t) →
      Settles (·.HasType returns) Failure.IsFault (run bags)) :
    (ofManyBags id returns t run).WellTyped := by
  refine .kernel rfl ⟨_, rfl⟩ fun args hargs => ?_
  obtain ⟨n, hn⟩ := (Signature.accepts_variadicOf [.bag t, .bag t]).1 hargs
  have hrep : args.types = (List.replicate (2 + n) t).map .bag := by
    rw [hn, List.map_replicate, List.replicate_add]; rfl
  obtain ⟨-, hb⟩ := Arguments.eq_of_types_bags _ hrep
  refine h args.bags fun b hm => List.eq_of_mem_replicate (n := 2 + n) ?_
  rw [← hb]; exact List.mem_map_of_mem hm

theorem ofValueAndBag_wellTyped {run : AttributeValue → Bag → Value}
    (h : ∀ v b, (run v b).HasType returns) : (ofValueAndBag id returns t run).WellTyped := by
  refine .kernel rfl ⟨_, rfl⟩ fun ⟨values, bags⟩ hargs => ?_
  have hacc : values.map (fun v => Datatype.value v.type) ++
      bags.map (fun b => Datatype.bag b.element) = [.value t, .bag t] := hargs
  rcases values with _ | ⟨v, _ | ⟨w, values⟩⟩
  · rcases bags with _ | ⟨b, bags⟩ <;> simp at hacc
  · rcases bags with _ | ⟨b, _ | ⟨b', bags⟩⟩
    · simp at hacc
    · exact h v b
    · simp at hacc
  · simp at hacc

end Builders

/-! ## Comparison -/

theorem comparisons_wellTyped {f : FirstOrderFunction} (h : f ∈ comparisons) : f.WellTyped := by
  simp only [comparisons, List.mem_append, List.mem_singleton, List.mem_map, List.mem_flatMap] at h
  obtain (⟨t, -, rfl⟩ | rfl) | ⟨t, -, c, -, rfl⟩ := h
  · -- equality
    refine binary_wellTyped fun a b ha hb => ?_
    cases t with
    | double =>
      obtain ⟨x, hx⟩ := AttributeValue.getDouble_of_type ha
      obtain ⟨y, hy⟩ := AttributeValue.getDouble_of_type hb
      simp only [doubleEqual, hx, hy, ok_bind]
      exact Value.hasType_ofBool _
    | _ => exact Value.hasType_ofBool _
  · -- equality of strings but for case
    refine binary_wellTyped fun a b ha hb => ?_
    obtain ⟨x, hx⟩ := AttributeValue.getString_of_type ha
    obtain ⟨y, hy⟩ := AttributeValue.getString_of_type hb
    simp only [hx, hy, ok_bind]
    exact Value.hasType_ofBool _
  · -- order
    refine binary_wellTyped fun a b ha hb => ?_
    rw [Comparison.run, if_pos (ha.trans hb.symm)]
    exact Value.hasType_ofBool _

/-! ## Numbers -/

theorem settles_orOverflow (operation : String) (answer : Option Int64) :
    Settles (·.HasType .integer) Failure.IsFault (orOverflow operation answer) := by
  cases answer with
  | none => exact Failure.isFault_of rfl
  | some i => exact Value.hasType_single (.integer i)

theorem integerFold_wellTyped (name : String) (step : Int64 → Int64 → Option Int64)
    (first : Int64) : (integerFold name step first).WellTyped := by
  refine variadic_wellTyped fun values hv => ?_
  obtain ⟨ns, hns⟩ := AttributeValue.mapM_of_type (fun _ => AttributeValue.getInteger_of_type) hv
  simp only [hns, ok_bind]
  exact settles_orOverflow _ _

theorem integerDivision_wellTyped (name : String) (quotient : Int64 → Int64 → Option Int64) :
    (integerDivision name quotient).WellTyped := by
  refine binary_wellTyped fun a b ha hb => ?_
  obtain ⟨x, hx⟩ := AttributeValue.getInteger_of_type ha
  obtain ⟨y, hy⟩ := AttributeValue.getInteger_of_type hb
  simp only [hx, hy, ok_bind]
  exact settles_ite (fun _ => Failure.isFault_of rfl) fun _ => settles_orOverflow _ _

theorem doubleFold_wellTyped (name : String) (step : Double → Double → Double) (first : Double) :
    (doubleFold name step first).WellTyped := by
  refine variadic_wellTyped fun values hv => ?_
  obtain ⟨ns, hns⟩ := AttributeValue.mapM_of_type (fun _ => AttributeValue.getDouble_of_type) hv
  simp only [hns, ok_bind]
  exact Value.hasType_single (.double _)

theorem doubleUnary_wellTyped (name : String) (run : Double → Double) :
    (doubleUnary name run).WellTyped := by
  refine unary_wellTyped fun a ha => ?_
  obtain ⟨x, hx⟩ := AttributeValue.getDouble_of_type ha
  simp only [hx, ok_bind]
  exact Value.hasType_single (.double _)

theorem integerFunctions_wellTyped {f : FirstOrderFunction} (h : f ∈ integerFunctions) :
    f.WellTyped := by
  simp only [integerFunctions, List.mem_cons, List.not_mem_nil, or_false] at h
  obtain rfl | rfl | rfl | rfl | rfl | rfl := h
  · exact integerFold_wellTyped _ _ _
  · exact integerFold_wellTyped _ _ _
  · refine binary_wellTyped fun a b ha hb => ?_
    obtain ⟨x, hx⟩ := AttributeValue.getInteger_of_type ha
    obtain ⟨y, hy⟩ := AttributeValue.getInteger_of_type hb
    simp only [hx, hy, ok_bind]
    exact settles_orOverflow _ _
  · exact integerDivision_wellTyped _ _
  · exact integerDivision_wellTyped _ _
  · refine unary_wellTyped fun a ha => ?_
    obtain ⟨x, hx⟩ := AttributeValue.getInteger_of_type ha
    simp only [hx, ok_bind]
    -- the answer is kept closed: unfolding it would count to the end of the range
    generalize Integer.abs? x = answer
    exact settles_orOverflow _ answer

theorem doubleFunctions_wellTyped {f : FirstOrderFunction} (h : f ∈ doubleFunctions) :
    f.WellTyped := by
  simp only [doubleFunctions, List.mem_cons, List.not_mem_nil, or_false] at h
  obtain rfl | rfl | rfl | rfl | rfl | rfl | rfl := h
  · exact doubleFold_wellTyped _ _ _
  · exact doubleFold_wellTyped _ _ _
  · refine binary_wellTyped fun a b ha hb => ?_
    obtain ⟨x, hx⟩ := AttributeValue.getDouble_of_type ha
    obtain ⟨y, hy⟩ := AttributeValue.getDouble_of_type hb
    simp only [hx, hy, ok_bind]
    exact Value.hasType_single (.double _)
  · refine binary_wellTyped fun a b ha hb => ?_
    obtain ⟨x, hx⟩ := AttributeValue.getDouble_of_type ha
    obtain ⟨y, hy⟩ := AttributeValue.getDouble_of_type hb
    simp only [hx, hy, ok_bind]
    exact settles_ite (fun _ => Failure.isFault_of rfl) fun _ => Value.hasType_single (.double _)
  all_goals exact doubleUnary_wellTyped _ _

theorem numbers_wellTyped {f : FirstOrderFunction} (h : f ∈ numbers) : f.WellTyped := by
  simp only [numbers, List.mem_append, List.mem_cons, List.not_mem_nil, or_false] at h
  obtain (h | h) | rfl | rfl := h
  · exact integerFunctions_wellTyped h
  · exact doubleFunctions_wellTyped h
  · refine unary_wellTyped fun a ha => ?_
    obtain ⟨x, hx⟩ := AttributeValue.getDouble_of_type ha
    simp only [hx, ok_bind]
    cases x.truncated?.bind Integer.ofInt? with
    | some i => exact Value.hasType_single (.integer i)
    | none => exact Failure.isFault_of rfl
  · refine unary_wellTyped fun a ha => ?_
    obtain ⟨x, hx⟩ := AttributeValue.getInteger_of_type ha
    simp only [hx, ok_bind]
    exact Value.hasType_single (.double _)

/-! ## Strings -/

theorem settles_readFound (t : AttributeType) (text : String) :
    Settles (fun v => v.type = t) Failure.IsFault (AttributeValue.readFound t text) := by
  unfold AttributeValue.readFound
  cases h : AttributeValue.read t text with
  | error fault => exact Failure.isFault_of rfl
  | ok v => exact AttributeValue.type_of_read h

theorem settles_runTextTest (test : List Char → List Char → Bool) {part whole : AttributeValue}
    (hp : part.type = .string ∨ part.type = .anyURI)
    (hw : whole.type = .string ∨ whole.type = .anyURI) :
    Settles (·.HasType .boolean) Failure.IsFault (runTextTest test part whole) := by
  obtain ⟨w, hw⟩ := AttributeValue.getText_of_type hw
  obtain ⟨p, hp⟩ := AttributeValue.getText_of_type hp
  simp only [runTextTest, hw, hp, ok_bind]
  exact Value.hasType_ofBool _

theorem substring_wellTyped {source : AttributeType} (hs : source = .string ∨ source = .anyURI) :
    (substring source).WellTyped := by
  refine ternaryMixed_wellTyped fun a b c ha hb hc => ?_
  obtain ⟨s, ha⟩ := AttributeValue.getText_of_type (by rwa [ha])
  obtain ⟨first, hb⟩ := AttributeValue.getInteger_of_type hb
  obtain ⟨past, hc⟩ := AttributeValue.getInteger_of_type hc
  simp only [runSubstring, ha, hb, hc, ok_bind]
  exact settles_ite (fun _ => Value.hasType_single (.string _)) fun _ => Failure.isFault_of rfl

theorem regexpMatch_wellTyped (version : String) {subject : AttributeType}
    (hs : subject = .string ∨ subject = .anyURI) : (regexpMatch version subject).WellTyped :=
  .matching rfl rfl rfl hs

theorem strings_wellTyped {f : FirstOrderFunction} (h : f ∈ strings) : f.WellTyped := by
  simp only [strings, List.mem_append, List.mem_cons, List.mem_flatMap, List.not_mem_nil,
    or_false] at h
  obtain (((rfl | rfl | rfl) | ⟨⟨name, test⟩, -, rfl | rfl⟩) | rfl | rfl | rfl | rfl) |
    ⟨t, -, rfl | rfl⟩ := h
  · -- concatenation
    refine variadic_wellTyped fun values hv => ?_
    obtain ⟨parts, hp⟩ := AttributeValue.mapM_of_type (fun _ => AttributeValue.getString_of_type) hv
    simp only [hp, ok_bind]
    exact Value.hasType_single (.string _)
  iterate 2
    · refine unary_wellTyped fun a ha => ?_
      obtain ⟨s, hs⟩ := AttributeValue.getString_of_type ha
      simp only [hs, ok_bind]
      exact Value.hasType_single (.string _)
  · exact binary_wellTyped fun a b ha hb => settles_runTextTest test (.inl ha) (.inl hb)
  · exact binaryMixed_wellTyped fun a b ha hb => settles_runTextTest test (.inl ha) (.inr hb)
  · exact substring_wellTyped (.inl rfl)
  · exact substring_wellTyped (.inr rfl)
  · exact regexpMatch_wellTyped _ (.inl rfl)
  · exact regexpMatch_wellTyped _ (.inr rfl)
  · -- reading
    refine unary_wellTyped fun a ha => ?_
    obtain ⟨s, hs⟩ := AttributeValue.getString_of_type ha
    simp only [hs, ok_bind]
    refine (settles_readFound t s).bind fun v hv => ?_
    rw [← hv]; exact Value.hasType_single v
  · exact unary_wellTyped fun a _ => Value.hasType_single (.string _)

/-! ## Logic -/

theorem logic_wellTyped {f : FirstOrderFunction} (h : f ∈ logic) : f.WellTyped := by
  simp only [logic, List.mem_cons, List.not_mem_nil, or_false] at h
  obtain rfl | rfl | rfl | rfl := h
  · exact .junction rfl nofun rfl rfl
  · exact .junction rfl nofun rfl rfl
  · exact .counting rfl rfl rfl
  · refine unary_wellTyped fun a ha => ?_
    obtain ⟨b, hb⟩ := AttributeValue.getBoolean_of_type ha
    simp only [hb, ok_bind]
    exact Value.hasType_ofBool _

/-! ## Bags -/

section Bags

variable {t : AttributeType}

theorem hasType_ofList {vs : List AttributeValue} (h : ∀ v ∈ vs, v.type = t) :
    (Value.bag (Bag.ofList t vs h)).HasType (.bag t) := rfl

theorem bagRelation_wellTyped (name : String) (related : Bag → Bag → Bool) :
    (bagRelation t name related).WellTyped :=
  ofTwoBags_wellTyped fun _ _ _ => Value.hasType_ofBool _

theorem bagsOf_wellTyped {f : FirstOrderFunction} (h : f ∈ bagsOf t) : f.WellTyped := by
  simp only [bagsOf, List.mem_cons, List.not_mem_nil, or_false] at h
  obtain rfl | rfl | rfl | rfl | rfl | rfl | rfl | rfl | rfl := h
  · -- the one value
    refine ofBag_wellTyped fun b hb => ?_
    unfold Bag.single?
    cases hc : b.contents with
    | empty reason => exact Failure.isFault_of rfl
    | single v =>
      have hv : b.values = [v] := by rw [Bag.values, hc]; rfl
      have htype : v.type = b.element := Bag.type_of_mem (hv ▸ List.mem_cons_self)
      exact Value.hasType_value_iff.2 ⟨v, rfl, htype.trans hb⟩
    | multi vs => exact Failure.isFault_of rfl
  · -- size
    refine ofBag_wellTyped fun b _ => ?_
    split
    · exact Value.hasType_single (.integer _)
    · exact Failure.isFault_of rfl
  · exact ofValueAndBag_wellTyped fun _ _ => Value.hasType_ofBool _
  · -- the bag of the arguments
    refine variadic_wellTyped fun values hv => ?_
    rw [Bag.checked_of_types hv]
    exact hasType_ofList hv
  · -- intersection
    refine ofTwoBags_wellTyped fun a b ha => ?_
    rw [← ha]
    exact hasType_ofList _
  · -- union
    refine ofManyBags_wellTyped fun bags hbags => ?_
    rw [Bag.union_of_types hbags]
    exact hasType_ofList _
  all_goals exact bagRelation_wellTyped _ _

end Bags

/-- Every first-order function of the standard library keeps to its declaration. -/
theorem firstOrder_wellTyped {f : FirstOrderFunction} (h : f ∈ firstOrder) : f.WellTyped := by
  simp only [firstOrder, List.mem_append] at h
  obtain (((h | h) | h) | h) | h := h
  · exact comparisons_wellTyped h
  · exact numbers_wellTyped h
  · exact strings_wellTyped h
  · exact logic_wellTyped h
  · obtain ⟨t, -, h⟩ := List.mem_flatMap.1 h
    exact bagsOf_wellTyped h

theorem mem_standard_firstOrder {g : FirstOrderFunction} :
    Callable.firstOrder g ∈ standard ↔ g ∈ firstOrder := by
  simp [standard]

theorem mem_standard_combinator (c : Combinator) : Callable.combinator c ∈ standard := by
  cases c <;> simp [standard, Combinator.all]

theorem mem_standard_of_logic {f : FirstOrderFunction} (h : f ∈ logic) :
    Callable.firstOrder f ∈ standard := by
  rw [mem_standard_firstOrder, firstOrder]
  exact List.mem_append_left _ (List.mem_append_right _ h)

end Library

end Xacml
