/-
Bags as multisets. Of a value only its key counts, so that equality of bags is a permutation of keys,
and so is what the numbers of occurrences tell. A sum of hashes that goes by the keys does not tell
permutations apart.
-/
import Xacml.Bag.Shared
import Mathlib.Data.List.Dedup
import Mathlib.Data.List.Perm.Subperm

namespace Xacml.Bag

open AttributeValue

/-- The keys of the values in order. -/
def keys (b : Bag) : List Key := b.values.map key

theorem length_keys (b : Bag) : b.keys.length = b.size := List.length_map _

variable {v : AttributeValue} {as bs : List AttributeValue} {a b c : Bag}

/-! ## Numbers of occurrences -/

theorem occurrences_eq_count_key (v : AttributeValue) (as : List AttributeValue) :
    occurrences v as = (as.map key).count v.key := by
  unfold occurrences List.count
  rw [List.countP_map]
  refine List.countP_congr fun w _ => ?_
  rw [Function.comp_apply, beq_iff_eq]
  exact same_iff_key_eq

theorem occurrences_pos_iff : 0 < occurrences v as ↔ v.key ∈ as.map key := by
  rw [occurrences_eq_count_key, List.count_pos_iff]

/-- Only keys of values need to be counted. -/
theorem perm_keys_iff : (as.map key).Perm (bs.map key) ↔ ∀ v, occurrences v as = occurrences v bs := by
  simp only [occurrences_eq_count_key]
  refine ⟨fun h v => h.count_eq v.key, fun h => List.perm_iff_count.2 fun k => ?_⟩
  by_cases hk : k ∈ as.map key ∨ k ∈ bs.map key
  · obtain ⟨v, rfl⟩ : ∃ v : AttributeValue, v.key = k := by
      rcases hk with hk | hk <;> obtain ⟨v, -, rfl⟩ := List.mem_map.1 hk <;> exact ⟨v, rfl⟩
    exact h v
  · obtain ⟨ha, hb⟩ := not_or.1 hk
    rw [List.count_eq_zero.2 ha, List.count_eq_zero.2 hb]

/-- Of two lists of one length it is enough to count the values of the one. -/
theorem perm_keys_iff_of_length (hlength : as.length = bs.length) :
    (as.map key).Perm (bs.map key) ↔ ∀ v ∈ as, occurrences v as = occurrences v bs := by
  refine ⟨fun h v _ => perm_keys_iff.1 h v, fun h => ?_⟩
  have hsub : (as.map key).Subperm (bs.map key) := by
    refine List.subperm_ext_iff.2 fun k hk => ?_
    obtain ⟨v, hv, rfl⟩ := List.mem_map.1 hk
    rw [← occurrences_eq_count_key, ← occurrences_eq_count_key]
    exact Nat.le_of_eq (h v hv)
  have hkeys : (bs.map key).length ≤ (as.map key).length := by
    rw [List.length_map, List.length_map]
    exact Nat.le_of_eq hlength.symm
  exact hsub.perm_of_length_le hkeys

/-! ## Equality -/

theorem same_iff_perm : a.same b = true ↔ a.element = b.element ∧ a.keys.Perm b.keys := by
  simp only [same, Bool.and_eq_true, beq_iff_eq, List.all_eq_true]
  constructor
  · rintro ⟨⟨ht, hsize⟩, h⟩
    exact ⟨ht, (perm_keys_iff_of_length hsize).2 h⟩
  · rintro ⟨ht, h⟩
    have hsize : a.size = b.size := by rw [← length_keys, ← length_keys, h.length_eq]
    exact ⟨⟨ht, hsize⟩, (perm_keys_iff_of_length hsize).1 h⟩

/-- Bags are equal if they are of one type and every value occurs equally often in both. -/
theorem same_iff_count :
    a.same b = true ↔ a.element = b.element ∧ ∀ v, a.count v = b.count v :=
  same_iff_perm.trans (and_congr_right' perm_keys_iff)

/-- Equality of bags does not see the order. -/
theorem same_of_perm (ht : a.element = b.element) (h : a.values.Perm b.values) :
    a.same b = true :=
  same_iff_perm.2 ⟨ht, h.map key⟩

/-- Of at most one value there is but one order. -/
theorem isEqv_iff_perm (hlength : as.length = bs.length) (h : as.length ≤ 1) :
    as.isEqv bs AttributeValue.same = true ↔ (as.map key).Perm (bs.map key) := by
  rcases bs with _ | ⟨w, _ | ⟨w', rest⟩⟩
  · rw [List.length_eq_zero_iff.1 hlength]
    exact ⟨fun _ => .refl _, fun _ => rfl⟩
  · obtain ⟨v, rfl⟩ := List.length_eq_one_iff.1 hlength
    simp [List.isEqv, same_iff_key_eq]
  · exact absurd (hlength ▸ h) (by simp)

/-! ## The distinct values with their numbers -/

theorem mem_keys_firstOccurrences {k : Key} (vs : List AttributeValue) :
    k ∈ (firstOccurrences vs).map key ↔ k ∈ vs.map key := by
  induction vs with
  | nil => rfl
  | cons v rest ih =>
    rw [List.map_cons, List.mem_cons, ← ih, firstOccurrences, List.map_cons, List.mem_cons]
    refine or_congr_right' fun hk => ⟨fun h => ?_, fun h => ?_⟩
    · exact List.map_subset key List.filter_sublist.subset h
    · obtain ⟨w, hw, rfl⟩ := List.mem_map.1 h
      refine List.mem_map_of_mem (List.mem_filter.2 ⟨hw, ?_⟩)
      rwa [Bool.not_eq_true', Bool.eq_false_iff, Ne, same_iff_key_eq]

theorem nodup_keys_firstOccurrences (vs : List AttributeValue) :
    ((firstOccurrences vs).map key).Nodup := by
  induction vs with
  | nil => exact List.nodup_nil
  | cons v rest ih =>
    rw [firstOccurrences, List.map_cons, List.nodup_cons]
    refine ⟨fun h => ?_, ih.sublist (List.filter_sublist.map key)⟩
    obtain ⟨w, hw, hkey⟩ := List.mem_map.1 h
    have hdiffer := (List.mem_filter.1 hw).2
    rw [same_iff_key_eq.2 hkey] at hdiffer
    cases hdiffer

theorem perm_keys_firstOccurrences (vs : List AttributeValue) :
    ((firstOccurrences vs).map key).Perm (vs.map key).dedup :=
  (List.perm_ext_iff_of_nodup (nodup_keys_firstOccurrences _) (List.nodup_dedup _)).2 fun _ =>
    (mem_keys_firstOccurrences _).trans List.mem_dedup.symm

theorem length_numbered (vs : List AttributeValue) :
    (numbered vs).length = (vs.map key).dedup.length := by
  rw [numbered, List.length_map, ← (perm_keys_firstOccurrences vs).length_eq, List.length_map]

/-- A value is found among the distinct values with the number of its occurrences. -/
theorem find?_numbered_iff {n : Nat} (hn : 0 < n) :
    (((numbered bs).find? fun f => f.1.same v).any fun f => f.2 == n) = true ↔
      occurrences v bs = n := by
  rw [numbered, List.find?_map, Option.any_map]
  change (((firstOccurrences bs).find? fun w => w.same v).any fun w =>
    occurrences w bs == n) = true ↔ _
  cases h : (firstOccurrences bs).find? fun w => w.same v with
  | none =>
    have hv : v.key ∉ bs.map key := fun hk => by
      obtain ⟨w, hw, hkey⟩ := List.mem_map.1 ((mem_keys_firstOccurrences _).2 hk)
      exact List.find?_eq_none.1 h w hw (same_iff_key_eq.2 hkey)
    rw [occurrences_eq_count_key, List.count_eq_zero.2 hv]
    exact iff_of_false Bool.false_ne_true (Nat.ne_of_lt hn)
  | some w =>
    have hkey : w.key = v.key :=
      same_iff_key_eq.1 (List.find?_some (p := fun w : AttributeValue => w.same v) h)
    rw [occurrences_eq_count_key v, ← hkey, ← occurrences_eq_count_key]
    exact beq_iff_eq

/-- It is enough to compare the distinct values with their numbers. -/
theorem sameNumbers_numbered_iff (hlength : as.length = bs.length) :
    sameNumbers (numbered as) (numbered bs) = true ↔ (as.map key).Perm (bs.map key) := by
  have hall : ((numbered as).all fun e => ((numbered bs).find? fun f => f.1.same e.1).any fun f =>
      f.2 == e.2) = true ↔ ∀ v ∈ firstOccurrences as, occurrences v bs = occurrences v as := by
    rw [numbered, List.all_map, List.all_eq_true]
    refine forall₂_congr fun v hv => find?_numbered_iff (occurrences_pos_iff.2 ?_)
    exact (mem_keys_firstOccurrences _).1 (List.mem_map_of_mem hv)
  rw [sameNumbers, Bool.and_eq_true, beq_iff_eq, length_numbered, length_numbered, hall]
  constructor
  · rintro ⟨-, h⟩
    refine (perm_keys_iff_of_length hlength).2 fun v hv => ?_
    -- a value that is not the first of its kind is counted as the first is
    obtain ⟨w, hw, hkey⟩ :=
      List.mem_map.1 ((mem_keys_firstOccurrences _).2 (List.mem_map_of_mem (f := key) hv))
    rw [occurrences_eq_count_key, occurrences_eq_count_key, ← hkey, ← occurrences_eq_count_key,
      ← occurrences_eq_count_key, h w hw]
  · intro h
    exact ⟨h.dedup.length_eq, fun v _ => (perm_keys_iff.1 h v).symm⟩

/-! ## Sums of hashes -/

/-- A hash that does not tell equal values apart. -/
def Respects (hash : AttributeValue → UInt64) : Prop :=
  ∀ v w : AttributeValue, v.same w = true → hash v = hash w

/-- Whatever a hasher makes of the keys. -/
theorem respects_key (hash : Key → UInt64) : Respects fun v => hash v.key :=
  fun _ _ h => congrArg hash (same_iff_key_eq.1 h)

theorem sumOfHashes_eq_of_perm {hash : AttributeValue → UInt64} (hhash : Respects hash)
    (h : (as.map key).Perm (bs.map key)) : sumOfHashes hash as = sumOfHashes hash bs := by
  -- the hash is one of keys, though perhaps not for keys that no value has
  have hfactors : Function.FactorsThrough hash key := fun v w hvw =>
    hhash v w (same_iff_key_eq.2 hvw)
  have hmap (vs : List AttributeValue) :
      vs.map hash = (vs.map key).map (Function.extend key hash fun _ => 0) := by
    rw [List.map_map]
    exact List.map_congr_left fun v _ => (hfactors.extend_apply _ v).symm
  unfold sumOfHashes
  rw [hmap, hmap]
  exact (h.map _).foldl_eq 0

end Xacml.Bag
