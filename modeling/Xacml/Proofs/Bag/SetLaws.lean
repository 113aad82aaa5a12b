/-
Bags as sets. A union or an intersection holds no value twice, and holds each where it came first.
What a bag holds, as a set, is the set of the keys of its values; union and intersection of bags are
those of these sets, and bags without repetitions are equal if they hold the same set. So the laws of
sets are laws of bags, with the distinct values of a bag in the place of the bag itself.
-/
import Mathlib.Data.Finset.Card
import Mathlib.Data.Finset.Lattice.Basic
import Xacml.Bag.Sets
import Xacml.Proofs.Bag.Multiset

namespace Xacml.Bag

open AttributeValue

/-! ## First occurrences -/

/-- Each value of the bag is the one that comes first in the list among those that equal it, and they
are in the order of the list. -/
structure FirstAmong (vs : List AttributeValue) (b : Bag) : Prop where
  first : ∀ v ∈ b.values, vs.find? (·.same v) = some v
  ordered : b.values.Pairwise fun v w => vs.findIdx (·.same v) < vs.findIdx (·.same w)

theorem same_self (v : AttributeValue) : v.same v = true := same_iff_key_eq.2 rfl

theorem same_comm (v w : AttributeValue) : v.same w = w.same v := by
  rw [Bool.eq_iff_iff, same_iff_key_eq, same_iff_key_eq, eq_comm]

theorem find?_firstOccurrences (vs : List AttributeValue) :
    ∀ v ∈ firstOccurrences vs, vs.find? (·.same v) = some v := by
  induction vs with
  | nil => exact List.forall_mem_nil _
  | cons v rest ih =>
    rw [firstOccurrences, List.forall_mem_cons]
    refine ⟨List.find?_cons_of_pos (same_self v), fun w hw => ?_⟩
    obtain ⟨hw, hdiffer⟩ := List.mem_filter.1 hw
    rw [Bool.not_eq_true', same_comm] at hdiffer
    rw [List.find?_cons_of_neg (by rw [hdiffer]; exact Bool.false_ne_true)]
    exact ih w hw

theorem pairwise_firstOccurrences (vs : List AttributeValue) :
    (firstOccurrences vs).Pairwise fun v w =>
      vs.findIdx (·.same v) < vs.findIdx (·.same w) := by
  induction vs with
  | nil => exact .nil
  | cons v rest ih =>
    -- what differs from the first value stands one place further on than in the rest
    have hlater : ∀ w ∈ (firstOccurrences rest).filter fun w => !w.same v,
        (v :: rest).findIdx (·.same w) = rest.findIdx (·.same w) + 1 := by
      intro w hw
      have hdiffer := (List.mem_filter.1 hw).2
      rw [Bool.not_eq_true', same_comm] at hdiffer
      rw [List.findIdx_cons, hdiffer]
      rfl
    have hfirst : (v :: rest).findIdx (·.same v) = 0 := by
      rw [List.findIdx_cons, same_self]
      rfl
    rw [firstOccurrences, List.pairwise_cons]
    refine ⟨fun w hw => ?_, ?_⟩
    · rw [hfirst, hlater w hw]
      exact Nat.zero_lt_succ _
    · refine (ih.filter _).imp_of_mem fun hx hy hlt => ?_
      rw [hlater _ hx, hlater _ hy]
      exact Nat.succ_lt_succ hlt

/-- What is left of the first occurrences is first among the values. -/
theorem firstAmong_of_sublist {t : AttributeType} {vs ws : List AttributeValue}
    (h : ws.Sublist (firstOccurrences vs)) (ht : ∀ v ∈ ws, v.type = t) :
    (ofList t ws ht).FirstAmong vs where
  first := by
    rw [values_ofList]
    exact fun v hv => find?_firstOccurrences vs v (h.subset hv)
  ordered := by
    rw [values_ofList]
    exact (pairwise_firstOccurrences vs).sublist h

/-! ## Sets of keys -/

/-- The set of the values of a bag, each by its key. -/
def keySet (b : Bag) : Finset Key := b.keys.toFinset

/-- A bag that holds no value twice. -/
def IsSet (b : Bag) : Prop := b.keys.Nodup

/-- The distinct values of a bag. -/
def deduplicated (b : Bag) : Bag :=
  ofList b.element b.distinct fun _ hv => type_of_mem (mem_firstOccurrences hv)

variable {t : AttributeType} {a b c : Bag} {bags : List Bag} {v : AttributeValue}

theorem mem_keySet {k : Key} : k ∈ b.keySet ↔ k ∈ b.keys := List.mem_toFinset

theorem keys_ofList {vs : List AttributeValue} (h : ∀ v ∈ vs, v.type = t) :
    (ofList t vs h).keys = vs.map key := by rw [keys, values_ofList]

theorem IsSet.size_eq (h : a.IsSet) : a.size = a.keySet.card := by
  rw [← length_keys, keySet, List.toFinset_card_of_nodup h]

/-- Bags without repetitions are equal if they hold the same values. -/
theorem same_iff_keySet (ha : a.IsSet) (hb : b.IsSet) :
    a.same b = true ↔ a.element = b.element ∧ a.keySet = b.keySet := by
  rw [same_iff_perm, List.perm_ext_iff_of_nodup ha hb, Finset.ext_iff]
  simp only [mem_keySet]

theorem same_of_keySet (ha : a.IsSet) (hb : b.IsSet) (ht : a.element = b.element)
    (h : a.keySet = b.keySet) : a.same b = true :=
  (same_iff_keySet ha hb).2 ⟨ht, h⟩

theorem contains_iff : b.contains v = true ↔ v.key ∈ b.keySet := by
  unfold contains
  rw [mem_keySet, List.any_eq_true, keys, List.mem_map]
  exact exists_congr fun w => and_congr_right fun _ => same_iff_key_eq

theorem isSet_deduplicated (b : Bag) : b.deduplicated.IsSet := by
  rw [IsSet, deduplicated, keys_ofList]
  exact nodup_keys_firstOccurrences _

@[simp] theorem keySet_deduplicated (b : Bag) : b.deduplicated.keySet = b.keySet := by
  ext k
  rw [mem_keySet, mem_keySet, deduplicated, keys_ofList]
  exact mem_keys_firstOccurrences b.values

theorem length_distinct (b : Bag) : b.distinct.length = b.keySet.card := by
  rw [← keySet_deduplicated, ← (isSet_deduplicated b).size_eq, deduplicated, size, values_ofList]

/-! ## Union and intersection -/

/-- The union of bags of one type, as a bag. -/
def join (t : AttributeType) (bags : List Bag) : Bag := (union t bags).getD (.empty t)

theorem join_of_types (h : ∀ d ∈ bags, d.element = t) :
    join t bags = ofList t (firstOccurrences (bags.flatMap values)) (types_of_union h) := by
  rw [join, union_of_types h]
  rfl

/-- Bags of one type have a union. -/
theorem union_eq_join (h : ∀ d ∈ bags, d.element = t) : union t bags = some (join t bags) := by
  rw [union_of_types h, join_of_types h]

@[simp] theorem element_join (t : AttributeType) (bags : List Bag) : (join t bags).element = t := by
  unfold join
  cases h : union t bags with
  | none => rfl
  | some u =>
    obtain ⟨_, rfl⟩ := ofList?_eq_some_iff.1 h
    rfl

@[simp] theorem element_intersection (a b : Bag) : (a.intersection b).element = a.element := rfl

theorem isSet_join (h : ∀ d ∈ bags, d.element = t) : (join t bags).IsSet := by
  rw [join_of_types h, IsSet, keys_ofList]
  exact nodup_keys_firstOccurrences _

theorem isSet_intersection (a b : Bag) : (a.intersection b).IsSet := by
  rw [IsSet, intersection, keys_ofList]
  exact (nodup_keys_firstOccurrences a.values).sublist (List.filter_sublist.map key)

theorem mem_keySet_join {k : Key} (h : ∀ d ∈ bags, d.element = t) :
    k ∈ (join t bags).keySet ↔ ∃ b ∈ bags, k ∈ b.keySet := by
  rw [mem_keySet, join_of_types h, keys_ofList, mem_keys_firstOccurrences, List.map_flatMap,
    List.mem_flatMap]
  simp only [mem_keySet]
  rfl

theorem forall_mem_pair {p : Bag → Prop} (ha : p a) (hb : p b) : ∀ d ∈ [a, b], p d :=
  List.forall_mem_cons.2 ⟨ha, List.forall_mem_singleton.2 hb⟩

theorem isSet_join_pair (ha : a.element = t) (hb : b.element = t) : (join t [a, b]).IsSet :=
  isSet_join (forall_mem_pair ha hb)

@[simp] theorem keySet_join_pair (ha : a.element = t) (hb : b.element = t) :
    (join t [a, b]).keySet = a.keySet ∪ b.keySet := by
  ext k
  simp [mem_keySet_join (forall_mem_pair ha hb)]

@[simp] theorem keySet_intersection (a b : Bag) :
    (a.intersection b).keySet = a.keySet ∩ b.keySet := by
  ext k
  rw [mem_keySet, intersection, keys_ofList, Finset.mem_inter, ← keySet_deduplicated a, mem_keySet,
    deduplicated, keys_ofList, List.mem_map, List.mem_map]
  constructor
  · rintro ⟨v, hv, rfl⟩
    obtain ⟨hv, hcontains⟩ := List.mem_filter.1 hv
    exact ⟨⟨v, hv, rfl⟩, contains_iff.1 hcontains⟩
  · rintro ⟨⟨v, hv, rfl⟩, hb⟩
    exact ⟨v, List.mem_filter.2 ⟨hv, contains_iff.2 hb⟩, rfl⟩

theorem contains_join (h : ∀ d ∈ bags, d.element = t) (v : AttributeValue) :
    (join t bags).contains v = bags.any (·.contains v) := by
  rw [Bool.eq_iff_iff, contains_iff, mem_keySet_join h, List.any_eq_true]
  exact exists_congr fun d => and_congr_right fun _ => contains_iff.symm

theorem contains_intersection (a b : Bag) (v : AttributeValue) :
    (a.intersection b).contains v = (a.contains v && b.contains v) := by
  rw [Bool.eq_iff_iff, Bool.and_eq_true, contains_iff, contains_iff, contains_iff,
    keySet_intersection, Finset.mem_inter]

theorem contains_deduplicated (a : Bag) (v : AttributeValue) :
    a.deduplicated.contains v = a.contains v := by
  rw [Bool.eq_iff_iff, contains_iff, contains_iff, keySet_deduplicated]

/-! ## Relations -/

theorem isSubset_iff : a.isSubset b = true ↔ a.keySet ⊆ b.keySet := by
  unfold isSubset
  rw [List.all_eq_true]
  constructor
  · intro h k hk
    obtain ⟨v, hv, rfl⟩ := List.mem_map.1 (mem_keySet.1 hk)
    exact contains_iff.1 (h v hv)
  · exact fun h v hv => contains_iff.2 (h (mem_keySet.2 (List.mem_map_of_mem hv)))

theorem meets_iff : a.meets b = true ↔ (a.keySet ∩ b.keySet).Nonempty := by
  unfold meets
  rw [List.any_eq_true]
  constructor
  · rintro ⟨v, hv, hb⟩
    have ha : v.key ∈ a.keySet := mem_keySet.2 (List.mem_map_of_mem hv)
    exact ⟨v.key, Finset.mem_inter.2 ⟨ha, contains_iff.1 hb⟩⟩
  · rintro ⟨k, hk⟩
    obtain ⟨ha, hb⟩ := Finset.mem_inter.1 hk
    obtain ⟨v, hv, rfl⟩ := List.mem_map.1 (mem_keySet.1 ha)
    exact ⟨v, hv, contains_iff.2 hb⟩

/-- To compare sets, count their elements and look for those of the one in the other. -/
theorem setEquals_iff : a.setEquals b = true ↔ a.keySet = b.keySet := by
  have hsubset : a.distinct.all b.contains = true ↔ a.keySet ⊆ b.keySet := by
    rw [← keySet_deduplicated a, ← isSubset_iff, isSubset, deduplicated, values_ofList]
  rw [setEquals, Bool.and_eq_true, beq_iff_eq, length_distinct, length_distinct, hsubset]
  constructor
  · rintro ⟨hcard, h⟩
    exact Finset.eq_of_subset_of_card_le h (Nat.le_of_eq hcard.symm)
  · intro h
    rw [h]
    exact ⟨rfl, subset_rfl⟩

theorem isEmpty_intersection : (a.intersection b).isEmpty = false ↔
    (a.keySet ∩ b.keySet).Nonempty := by
  rw [← keySet_intersection, keySet, List.toFinset_nonempty_iff, intersection, keys_ofList,
    isEmpty_ofList, List.isEmpty_eq_false_iff, Ne, Ne, List.map_eq_nil_iff]

/-! ## Unions of many bags -/

theorem element_foldl_join (bags : List Bag) {u : Bag} (hu : u.element = t) :
    (bags.foldl (fun u d => join t [u, d]) u).element = t := by
  induction bags generalizing u with
  | nil => exact hu
  | cons b rest ih => exact ih (element_join t [u, b])

theorem isSet_foldl_join (hbags : ∀ d ∈ bags, d.element = t) {u : Bag} (hu : u.element = t)
    (hset : u.IsSet) : (bags.foldl (fun u d => join t [u, d]) u).IsSet := by
  induction bags generalizing u with
  | nil => exact hset
  | cons b rest ih =>
    rw [List.forall_mem_cons] at hbags
    exact ih hbags.2 (element_join t [u, b]) (isSet_join_pair hu hbags.1)

theorem mem_keySet_foldl_join {k : Key} (hbags : ∀ d ∈ bags, d.element = t) {u : Bag}
    (hu : u.element = t) : k ∈ (bags.foldl (fun u d => join t [u, d]) u).keySet ↔
      k ∈ u.keySet ∨ ∃ b ∈ bags, k ∈ b.keySet := by
  induction bags generalizing u with
  | nil => simp
  | cons b rest ih =>
    rw [List.forall_mem_cons] at hbags
    rw [List.foldl_cons, ih hbags.2 (element_join t [u, b]), keySet_join_pair hu hbags.1,
      Finset.mem_union, List.exists_mem_cons_iff, or_assoc]

/-- A union of many bags is made two by two, in any order. -/
theorem join_same_foldl {more bags : List Bag} (h : (a :: b :: more).Perm bags)
    (hbags : ∀ d ∈ bags, d.element = t) :
    (join t bags).same (more.foldl (fun u c => join t [u, c]) (join t [a, b])) = true := by
  have hall : ∀ d ∈ a :: b :: more, d.element = t := fun d hd => hbags d (h.mem_iff.1 hd)
  rw [List.forall_mem_cons, List.forall_mem_cons] at hall
  obtain ⟨ha, hb, hmore⟩ := hall
  have hpair := element_join t [a, b]
  rw [same_iff_keySet (isSet_join hbags) (isSet_foldl_join hmore hpair (isSet_join_pair ha hb)),
    element_join, element_foldl_join more hpair]
  refine ⟨rfl, ?_⟩
  ext k
  rw [mem_keySet_join hbags, mem_keySet_foldl_join hmore hpair, keySet_join_pair ha hb,
    Finset.mem_union, or_assoc]
  simp only [← h.mem_iff, List.exists_mem_cons_iff]

/-! ## The lattice -/

section Lattice

variable (ha : a.element = t) (hb : b.element = t) (hc : c.element = t)

include ha hb in
theorem join_comm : (join t [a, b]).same (join t [b, a]) = true :=
  same_of_keySet (isSet_join_pair ha hb) (isSet_join_pair hb ha) (by simp)
    (by simp [ha, hb, Finset.union_comm])

include ha hb hc in
theorem join_assoc : (join t [join t [a, b], c]).same (join t [a, join t [b, c]]) = true :=
  same_of_keySet (isSet_join_pair (element_join ..) hc) (isSet_join_pair ha (element_join ..))
    (by simp) (by simp [ha, hb, hc, Finset.union_assoc])

include ha in
theorem join_self : (join t [a, a]).same a.deduplicated = true :=
  same_of_keySet (isSet_join_pair ha ha) (isSet_deduplicated a) ((element_join ..).trans ha.symm)
    (by simp [ha])

include ha in
theorem join_absorb (b : Bag) : (join t [a, a.intersection b]).same a.deduplicated = true :=
  same_of_keySet (isSet_join_pair ha ha) (isSet_deduplicated a) ((element_join ..).trans ha.symm)
    (by simp [ha])

theorem intersection_comm (h : a.element = b.element) :
    (a.intersection b).same (b.intersection a) = true :=
  same_of_keySet (isSet_intersection a b) (isSet_intersection b a) h (by simp [Finset.inter_comm])

theorem intersection_assoc (a b c : Bag) :
    ((a.intersection b).intersection c).same (a.intersection (b.intersection c)) = true :=
  same_of_keySet (isSet_intersection _ c) (isSet_intersection a _) rfl (by simp [Finset.inter_assoc])

theorem intersection_self (a : Bag) : (a.intersection a).same a.deduplicated = true :=
  same_of_keySet (isSet_intersection a a) (isSet_deduplicated a) rfl (by simp)

include ha hb in
theorem intersection_absorb : (a.intersection (join t [a, b])).same a.deduplicated = true :=
  same_of_keySet (isSet_intersection a _) (isSet_deduplicated a) rfl (by simp [ha, hb])

include ha hb hc in
theorem join_intersection : (join t [a, b.intersection c]).same
    ((join t [a, b]).intersection (join t [a, c])) = true :=
  same_of_keySet (isSet_join_pair ha hb) (isSet_intersection _ _) (by simp)
    (by simp [ha, hb, hc, Finset.union_inter_distrib_left])

include ha hb hc in
theorem intersection_join : (a.intersection (join t [b, c])).same
    (join t [a.intersection b, a.intersection c]) = true :=
  same_of_keySet (isSet_intersection a _) (isSet_join_pair ha ha) (by simp [ha])
    (by simp [ha, hb, hc, Finset.inter_union_distrib_left])

end Lattice

/-! ## Relations through unions and intersections -/

theorem isSubset_iff_intersection :
    a.isSubset b = true ↔ (a.intersection b).same a.deduplicated = true := by
  rw [isSubset_iff, same_iff_keySet (isSet_intersection a b) (isSet_deduplicated a),
    keySet_intersection, keySet_deduplicated, Finset.inter_eq_left]
  exact (and_iff_right rfl).symm

theorem isSubset_iff_join (ha : a.element = t) (hb : b.element = t) :
    a.isSubset b = true ↔ (join t [a, b]).same b.deduplicated = true := by
  rw [isSubset_iff, same_iff_keySet (isSet_join_pair ha hb) (isSet_deduplicated b),
    keySet_join_pair ha hb, keySet_deduplicated, Finset.union_eq_right, element_join]
  exact (and_iff_right hb.symm).symm

theorem setEquals_eq (a b : Bag) : a.setEquals b = (a.isSubset b && b.isSubset a) := by
  rw [Bool.eq_iff_iff, Bool.and_eq_true, setEquals_iff, isSubset_iff, isSubset_iff,
    Finset.Subset.antisymm_iff]

theorem meets_eq (a b : Bag) : a.meets b = !(a.intersection b).isEmpty := by
  rw [Bool.eq_iff_iff, Bool.not_eq_true', meets_iff, isEmpty_intersection]

/-- What two bags have in common is counted twice among what they hold. -/
theorem size_join_add_size_intersection (ha : a.element = t) (hb : b.element = t) :
    (join t [a, b]).size + (a.intersection b).size = a.distinct.length + b.distinct.length := by
  rw [(isSet_join_pair ha hb).size_eq, (isSet_intersection a b).size_eq, length_distinct,
    length_distinct, keySet_join_pair ha hb, keySet_intersection, Finset.card_union_add_card_inter]

/-! ## Laws -/

/-- The laws of sets for three bags; the distinct values of a bag stand for the set that it is. -/
structure SetLaws (t : AttributeType) (a b c : Bag) : Prop where
  -- bags of the type have a union, which is of the type
  union_join : ∀ bags, (∀ d ∈ bags, d.element = t) → union t bags = some (join t bags)
  join_element : ∀ bags, (join t bags).element = t
  -- results hold no value twice, and each where it came first
  join_first : ∀ bags, (∀ d ∈ bags, d.element = t) →
    (join t bags).IsSet ∧ (join t bags).FirstAmong (bags.flatMap values)
  intersection_first : (a.intersection b).IsSet ∧ (a.intersection b).FirstAmong a.values
  deduplicated_first : a.deduplicated.IsSet ∧ a.deduplicated.FirstAmong a.values
  -- and they hold what they should
  join_contains : ∀ bags v, (∀ d ∈ bags, d.element = t) →
    (join t bags).contains v = bags.any (·.contains v)
  intersection_contains : ∀ v, (a.intersection b).contains v = (a.contains v && b.contains v)
  deduplicated_contains : ∀ v, a.deduplicated.contains v = a.contains v
  -- a union of many bags is made two by two, in any order
  join_iterated : ∀ more bags, (a :: b :: more).Perm bags → (∀ d ∈ bags, d.element = t) →
    (join t bags).same (more.foldl (fun u d => join t [u, d]) (join t [a, b])) = true
  -- a lattice
  join_comm : (join t [a, b]).same (join t [b, a]) = true
  join_assoc : (join t [join t [a, b], c]).same (join t [a, join t [b, c]]) = true
  join_self : (join t [a, a]).same a.deduplicated = true
  join_absorb : (join t [a, a.intersection b]).same a.deduplicated = true
  intersection_comm : (a.intersection b).same (b.intersection a) = true
  intersection_assoc : ((a.intersection b).intersection c).same
    (a.intersection (b.intersection c)) = true
  intersection_self : (a.intersection a).same a.deduplicated = true
  intersection_absorb : (a.intersection (join t [a, b])).same a.deduplicated = true
  -- which is distributive
  join_intersection : (join t [a, b.intersection c]).same
    ((join t [a, b]).intersection (join t [a, c])) = true
  intersection_join : (a.intersection (join t [b, c])).same
    (join t [a.intersection b, a.intersection c]) = true
  -- with its order
  isSubset_intersection : a.isSubset b = true ↔ (a.intersection b).same a.deduplicated = true
  isSubset_join : a.isSubset b = true ↔ (join t [a, b]).same b.deduplicated = true
  setEquals_isSubset : a.setEquals b = (a.isSubset b && b.isSubset a)
  meets_intersection : a.meets b = !(a.intersection b).isEmpty
  -- and numbers of elements
  size_add : (join t [a, b]).size + (a.intersection b).size =
    a.distinct.length + b.distinct.length

/-- Bags of one type obey the laws of sets. -/
theorem set_laws (ha : a.element = t) (hb : b.element = t) (hc : c.element = t) :
    SetLaws t a b c where
  union_join _ := union_eq_join
  join_element := element_join t
  join_first bags h := by
    refine ⟨isSet_join h, ?_⟩
    rw [join_of_types h]
    exact firstAmong_of_sublist (.refl _) _
  intersection_first := ⟨isSet_intersection a b, firstAmong_of_sublist List.filter_sublist _⟩
  deduplicated_first := ⟨isSet_deduplicated a, firstAmong_of_sublist (.refl _) _⟩
  join_contains _ v h := contains_join h v
  intersection_contains v := contains_intersection a b v
  deduplicated_contains v := contains_deduplicated a v
  join_iterated _ _ := join_same_foldl
  join_comm := join_comm ha hb
  join_assoc := join_assoc ha hb hc
  join_self := join_self ha
  join_absorb := join_absorb ha b
  intersection_comm := intersection_comm (ha.trans hb.symm)
  intersection_assoc := intersection_assoc a b c
  intersection_self := intersection_self a
  intersection_absorb := intersection_absorb ha hb
  join_intersection := join_intersection ha hb hc
  intersection_join := intersection_join ha hb hc
  isSubset_intersection := isSubset_iff_intersection
  isSubset_join := isSubset_iff_join ha hb
  setEquals_isSubset := setEquals_eq a b
  meets_intersection := meets_eq a b
  size_add := size_join_add_size_intersection ha hb

/-- A point in time by the clock of a place that is so many minutes ahead of UTC. -/
def clock (hour : Fin 24) (ahead : Int) : AttributeValue :=
  .dateTime ⟨⟨2024, 2, 29, by decide⟩, ⟨hour, 0, 0, 0, by unfold Calendar.ValidTime; omega⟩, ahead⟩

/-- Noon in UTC, which is an hour past noon elsewhere, and two midnights. -/
theorem set_laws_noon :
    ∃ a b c u : Bag, a.element = .dateTime ∧ b.element = .dateTime ∧ c.element = .dateTime ∧
      a.size = 3 ∧ union .dateTime [a, b] = some u ∧ u.values = a.values.take 2 ∧
      (a.intersection b).size = 1 ∧ SetLaws .dateTime a b c := by
  let a : Bag := ofList .dateTime [clock 12 0, clock 0 0, clock 13 60] (by decide)
  let b : Bag := ofList .dateTime [clock 13 60] (by decide)
  let c : Bag := ofList .dateTime [clock 0 0, clock 0 0] (by decide)
  have ha : a.element = .dateTime := rfl
  have hb : b.element = .dateTime := rfl
  have hc : c.element = .dateTime := rfl
  have h := set_laws ha hb hc
  have hunion : union .dateTime [a, b] = some (join .dateTime [a, b]) :=
    h.union_join _ (forall_mem_pair ha hb)
  exact ⟨a, b, c, _, ha, hb, hc, rfl, hunion, by decide, by decide, h⟩

end Xacml.Bag
