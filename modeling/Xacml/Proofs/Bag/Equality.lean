/-
Equality and hashing of bags that share their values. Whatever is made, hashed and compared, cells keep
their values, and a hash that a cell keeps is that of its values. So no shortcut of the comparison
answers otherwise than counting does, and equal bags hash alike whether or not they were hashed before.
-/
import Xacml.Proofs.Bag.Multiset
import Mathlib.Data.List.GetD
import Mathlib.Logic.Relation

namespace Xacml.Bag

section

variable (hash : AttributeValue → UInt64)

/-! ## Runs -/

/-- What can be done with bags: one is made, one is shown to a hasher, two are compared. -/
inductive Heap.Step : Heap → Heap → Prop
  | make (heap : Heap) (b : Bag) : Step heap (heap.make b).2
  | digest (heap : Heap) (a : Handle) : Step heap (a.digest hash heap).2
  | equals (heap : Heap) (a b : Handle) : Step heap (a.equals hash b heap).2

/-- The heaps that one may become as bags are made, hashed and compared. -/
def Heap.Leads : Heap → Heap → Prop := Relation.ReflTransGen (Heap.Step hash)

/-- A hash that a cell keeps is that of its values. -/
def Cell.Sound (c : Cell) : Prop := ∀ known, c.memo = some known → known = sumOfHashes hash c.values

def Heap.Sound (heap : Heap) : Prop := ∀ c ∈ heap, c.Sound hash

/-- A heap has all the cells of another, with their values. -/
def Heap.Extends (heap heap' : Heap) : Prop := heap.map Cell.values <+: heap'.map Cell.values

/-- The cell of a handle, if it has one, has been made. -/
def Handle.On (a : Handle) (heap : Heap) : Prop :=
  ∀ address, a.contents = .multi address → address < heap.length

end

variable {hash : AttributeValue → UInt64} {heap heap' heap₁ heap₂ : Heap} {a b : Handle}

/-! ## Cells -/

theorem Cell.hashed_values (c : Cell) : (c.hashed hash).2.values = c.values := by
  unfold Cell.hashed
  split <;> rfl

theorem Cell.Sound.hashed {c : Cell} (h : c.Sound hash) :
    (c.hashed hash).1 = sumOfHashes hash c.values ∧ (c.hashed hash).2.Sound hash := by
  unfold Cell.hashed
  split
  · rename_i known hmemo
    exact ⟨h known hmemo, h⟩
  · exact ⟨rfl, by rintro _ ⟨⟩; rfl⟩

theorem Heap.values_cell (heap : Heap) (p : Nat) :
    (heap.cell p).values = (heap.map Cell.values).getD p [] := by
  unfold Heap.cell
  exact (List.getD_map _ _ Cell.values).symm

theorem Heap.Sound.cell (h : heap.Sound hash) (p : Nat) : (heap.cell p).Sound hash := by
  unfold Heap.cell
  by_cases hp : p < heap.length
  · rw [List.getD_eq_getElem _ _ hp]
    exact h _ (List.getElem_mem hp)
  · rw [List.getD_eq_default _ _ (Nat.le_of_not_lt hp)]
    exact nofun

/-! ## Reading -/

/-- What is behind a handle goes by the values in the cells. -/
theorem Handle.values_congr (h : heap'.map Cell.values = heap.map Cell.values) :
    a.values heap' = a.values heap := by
  simp only [Handle.values, Heap.values_cell, h]

/-- A bag stays what it is. -/
theorem Handle.On.values_eq (ha : a.On heap) (h : heap.Extends heap') :
    a.values heap' = a.values heap := by
  unfold Handle.values
  split
  · rfl
  · rfl
  · rename_i p hp
    rw [Heap.values_cell, Heap.values_cell]
    have hlt : p < (heap.map Cell.values).length := by
      rw [List.length_map]
      exact ha p hp
    rw [List.getD_eq_getElem _ _ hlt, List.getD_eq_getElem _ _ (Nat.lt_of_lt_of_le hlt h.length_le),
      h.getElem hlt]

/-! ## Hashing -/

/-- Hashing changes no values. -/
theorem Handle.map_values_contentHash (a : Handle) (heap : Heap) :
    (a.contentHash hash heap).2.map Cell.values = heap.map Cell.values := by
  unfold Handle.contentHash
  split
  · rfl
  · rfl
  · rename_i p _
    change (heap.set p ((heap.cell p).hashed hash).2).map Cell.values = _
    rw [List.map_set, Cell.hashed_values, Heap.values_cell]
    by_cases hp : p < (heap.map Cell.values).length
    · rw [List.getD_eq_getElem _ _ hp, List.set_getElem_self]
    · exact List.set_eq_of_length_le (Nat.le_of_not_lt hp)

/-- It tells the sum of the hashes, be it kept or not, and keeps no other. -/
theorem Heap.Sound.contentHash (h : heap.Sound hash) (a : Handle) :
    (a.contentHash hash heap).1 = sumOfHashes hash (a.values heap) ∧
      (a.contentHash hash heap).2.Sound hash := by
  unfold Handle.contentHash Handle.values
  split
  · exact ⟨rfl, h⟩
  · exact ⟨(UInt64.zero_add _).symm, h⟩
  · rename_i p _
    obtain ⟨hsum, hcell⟩ := (h.cell p).hashed
    refine ⟨hsum, fun c hc => ?_⟩
    rcases List.mem_or_eq_of_mem_set hc with hc | rfl
    · exact h c hc
    · exact hcell

theorem Heap.Sound.digest_eq (h : heap.Sound hash) (a : Handle) :
    (a.digest hash heap).1 = (a.element, sumOfHashes hash (a.values heap)) := by
  rw [← (h.contentHash a).1]
  rfl

/-! ## Comparing -/

/-- Comparing does no more to the heap than hashing both bags may. -/
theorem Handle.equals_heap (a b : Handle) (heap : Heap) :
    (a.equals hash b heap).2 = heap ∨
      (a.equals hash b heap).2 = (b.contentHash hash (a.contentHash hash heap).2).2 := by
  unfold Handle.equals
  split
  · exact .inl rfl
  · split
    · split
      · exact .inl rfl
      · exact .inr rfl
    · exact .inl rfl

theorem Handle.length_le_one (h : ∀ p, a.contents ≠ .multi p) : (a.values heap).length ≤ 1 := by
  unfold Handle.values
  split
  · exact Nat.zero_le 1
  · exact Nat.le_refl 1
  · rename_i p hp
    exact absurd hp (h p)

/-- Comparing the hashes first makes no difference to comparing the numbers of occurrences. -/
theorem Heap.Sound.compare_cells (hhash : Respects hash) (h : heap.Sound hash)
    (hlength : (a.values heap).length = (b.values heap).length) :
    let x := a.contentHash hash heap
    let y := b.contentHash hash x.2
    (x.1 == y.1 && sameNumbers (numbered (a.values y.2)) (numbered (b.values y.2))) = true ↔
      ((a.values heap).map AttributeValue.key).Perm ((b.values heap).map AttributeValue.key) := by
  intro x y
  obtain ⟨hx, hsound⟩ := h.contentHash a
  obtain ⟨hy, -⟩ := hsound.contentHash b
  have hframe (c : Handle) : c.values x.2 = c.values heap :=
    Handle.values_congr (a.map_values_contentHash heap)
  have hframe' (c : Handle) : c.values y.2 = c.values heap :=
    (Handle.values_congr (b.map_values_contentHash x.2)).trans (hframe c)
  rw [Bool.and_eq_true, beq_iff_eq, hframe', hframe', sameNumbers_numbered_iff hlength, hx, hy,
    hframe]
  exact and_iff_right_of_imp fun hperm => sumOfHashes_eq_of_perm hhash hperm

/-- Whatever shortcut it takes, comparing tells whether the one is the other in another order. -/
theorem Heap.Sound.equals_iff_perm (hhash : Respects hash) (h : heap.Sound hash) (a b : Handle) :
    (a.equals hash b heap).1 = true ↔ a.element = b.element ∧
      ((a.values heap).map AttributeValue.key).Perm ((b.values heap).map AttributeValue.key) := by
  unfold Handle.equals
  split
  · rename_i hdiffer
    refine iff_of_false Bool.false_ne_true fun ⟨ht, hperm⟩ => ?_
    rcases hdiffer with hdiffer | hdiffer
    · exact hdiffer ht
    · rw [← List.length_map AttributeValue.key, ← List.length_map AttributeValue.key] at hdiffer
      exact hdiffer hperm.length_eq
  · rename_i hequal
    obtain ⟨ht, hlength⟩ : a.element = b.element ∧
        (a.values heap).length = (b.values heap).length := by
      simpa [not_or] using hequal
    rw [and_iff_right ht]
    split
    · rename_i p q hp hq
      split
      · rename_i hpq
        have hvalues : a.values heap = b.values heap := by
          simp only [Handle.values, hp, hq, hpq]
        rw [hvalues]
        exact iff_of_true rfl (.refl _)
      · exact h.compare_cells hhash hlength
    · -- one of the bags, and so each, has at most one value
      rename_i hnot
      refine isEqv_iff_perm hlength ?_
      by_cases ha : ∃ p, a.contents = .multi p
      · obtain ⟨p, hp⟩ := ha
        rw [hlength]
        exact Handle.length_le_one fun q hq => hnot p q hp hq
      · exact Handle.length_le_one fun p hp => ha ⟨p, hp⟩

/-- So it tells equality of the bags behind the handles. -/
theorem Heap.Sound.equals_eq_same (hhash : Respects hash) (h : heap.Sound hash) {x y : Bag}
    (ha : a.Holds heap x) (hb : b.Holds heap y) : (a.equals hash b heap).1 = x.same y := by
  rw [Bool.eq_iff_iff, h.equals_iff_perm hhash, same_iff_perm, ha.element, hb.element, ha.values,
    hb.values]
  rfl

/-! ## Steps and runs -/

theorem Heap.Extends.of_eq (h : heap'.map Cell.values = heap.map Cell.values) :
    heap.Extends heap' := by
  simp only [Heap.Extends, h, List.prefix_refl]

/-- Hashing and comparing only ask for hashes, and making a bag only adds a cell. -/
theorem Heap.Step.frame (hstep : Heap.Step hash heap heap') (h : heap.Sound hash) :
    heap.Extends heap' ∧ heap'.Sound hash := by
  cases hstep with
  | make b =>
    unfold Heap.make
    cases b.contents with
    | empty reason => exact ⟨.of_eq rfl, h⟩
    | single v => exact ⟨.of_eq rfl, h⟩
    | multi values =>
      refine ⟨?_, fun c hc => ?_⟩
      · unfold Heap.Extends
        rw [List.map_append]
        exact List.prefix_append _ _
      · rcases List.mem_append.1 hc with hc | hc
        · exact h c hc
        · rw [List.mem_singleton.1 hc]
          exact nofun
  | digest a => exact ⟨.of_eq (a.map_values_contentHash heap), (h.contentHash a).2⟩
  | equals a b =>
    rcases a.equals_heap b heap with heq | heq <;> rw [heq]
    · exact ⟨.of_eq rfl, h⟩
    · exact ⟨.of_eq ((b.map_values_contentHash _).trans (a.map_values_contentHash heap)),
        ((h.contentHash a).2.contentHash b).2⟩

theorem Heap.Leads.frame (hleads : Heap.Leads hash heap heap') (h : heap.Sound hash) :
    heap.Extends heap' ∧ heap'.Sound hash := by
  induction hleads with
  | refl => exact ⟨.of_eq rfl, h⟩
  | tail _ hstep ih =>
    obtain ⟨hextends, hsound⟩ := hstep.frame ih.2
    exact ⟨ih.1.trans hextends, hsound⟩

/-- Bags on a heap are compared as multisets, now and later, and hashed accordingly. -/
structure Heap.ComparesMultisets (hash : AttributeValue → UInt64) (heap : Heap) : Prop where
  /-- They are equal if they are of one type and every value occurs equally often in both. -/
  equals_iff : ∀ a b : Handle, (a.equals hash b heap).1 = true ↔
    a.element = b.element ∧ ∀ v, occurrences v (a.values heap) = occurrences v (b.values heap)
  /-- A bag is behind the handle that it is made for, -/
  made : ∀ b : Bag, (heap.make b).1.Holds (heap.make b).2 b
  /-- and comparing handles is comparing the bags behind them. -/
  equals_eq : ∀ (a b : Handle) (x y : Bag), a.Holds heap x → b.Holds heap y →
    (a.equals hash b heap).1 = x.same y
  equivalence : Equivalence fun a b : Handle => (a.equals hash b heap).1 = true
  /-- The order of the values does not matter, -/
  permutation : ∀ a b : Handle, a.element = b.element →
    (a.values heap).Perm (b.values heap) → (a.equals hash b heap).1 = true
  /-- nor why a bag is empty, -/
  reason : ∀ t r r', (Handle.equals hash ⟨t, .empty r⟩ ⟨t, .empty r'⟩ heap).1 = true
  /-- nor what has been hashed or compared before. -/
  later : ∀ a b : Handle, a.On heap → b.On heap → ∀ heap', Heap.Leads hash heap heap' →
    (a.equals hash b heap').1 = (a.equals hash b heap).1
  /-- Equal bags look alike to a hasher, whenever they are shown to it. -/
  digest : ∀ a b : Handle, a.On heap → b.On heap → (a.equals hash b heap).1 = true →
    ∀ heap₁ heap₂, Heap.Leads hash heap heap₁ → Heap.Leads hash heap heap₂ →
      (a.digest hash heap₁).1 = (b.digest hash heap₂).1

/-- On every heap that making, hashing and comparing bags leads to, bags are compared as multisets,
and hashed accordingly. -/
theorem compares_multisets (hhash : Respects hash) (h : Heap.Leads hash [] heap) :
    heap.ComparesMultisets hash := by
  have hsound : heap.Sound hash := (h.frame nofun).2
  have hlater {heap'} (hleads : Heap.Leads hash heap heap') :
      heap.Extends heap' ∧ heap'.Sound hash := hleads.frame hsound
  refine
    { equals_iff := fun a b => (hsound.equals_iff_perm hhash a b).trans
        (and_congr_right' perm_keys_iff)
      made := heap.make_holds
      equals_eq := fun a b x y => hsound.equals_eq_same hhash
      equivalence := ?_
      permutation := fun a b ht hperm => ?_
      reason := fun t r r' => ?_
      later := fun a b ha hb heap' hleads => ?_
      digest := fun a b ha hb heq heap₁ heap₂ hleads₁ hleads₂ => ?_ }
  · simp only [hsound.equals_iff_perm hhash]
    exact ⟨fun a => ⟨rfl, .refl _⟩, fun h => ⟨h.1.symm, h.2.symm⟩,
      fun h h' => ⟨h.1.trans h'.1, h.2.trans h'.2⟩⟩
  · exact (hsound.equals_iff_perm hhash a b).2 ⟨ht, hperm.map _⟩
  · exact (hsound.equals_iff_perm hhash _ _).2 ⟨rfl, .refl _⟩
  · obtain ⟨hextends, hsound'⟩ := hlater hleads
    rw [Bool.eq_iff_iff, hsound.equals_iff_perm hhash, hsound'.equals_iff_perm hhash,
      ha.values_eq hextends, hb.values_eq hextends]
  · obtain ⟨hextends₁, hsound₁⟩ := hlater hleads₁
    obtain ⟨hextends₂, hsound₂⟩ := hlater hleads₂
    obtain ⟨ht, hperm⟩ := (hsound.equals_iff_perm hhash a b).1 heq
    rw [hsound₁.digest_eq, hsound₂.digest_eq, ha.values_eq hextends₁, hb.values_eq hextends₂, ht,
      sumOfHashes_eq_of_perm hhash hperm]

/-- Noon in UTC, which is an hour past noon elsewhere, and midnight: in another order, and with the
hash of one of the bags known already. -/
theorem compares_multisets_noon :
    ∃ (hash : AttributeValue → UInt64) (heap : Heap) (a b : Handle), Respects hash ∧
      Heap.Leads hash [] heap ∧ a.values heap ≠ (b.values heap).reverse ∧
      (a.equals hash b heap).1 = true ∧ (a.digest hash heap).1 = (b.digest hash heap).1 := by
  let clock (hour : Fin 24) (offset : Int) : AttributeValue :=
    .dateTime ⟨⟨2024, 2, 29, by decide⟩, ⟨hour, 0, 0, 0, by unfold Calendar.ValidTime; omega⟩, offset⟩
  let noon := clock 12 0
  let hash (v : AttributeValue) : UInt64 := if v.key = noon.key then 1 else 2
  have hhash : Respects hash := respects_key fun k => if k = noon.key then 1 else 2
  let made := Heap.make [] (.ofList .dateTime [noon, clock 0 0] (by decide))
  let heap := (made.1.digest hash made.2).2
  let other := heap.make (.ofList .dateTime [clock 0 0, clock 13 60] (by decide))
  have hleads : Heap.Leads hash [] other.2 :=
    ((Relation.ReflTransGen.single (.make ..)).tail (.digest ..)).tail (.make ..)
  have h := compares_multisets hhash hleads
  have hequal : (made.1.equals hash other.1 other.2).1 = true := by decide
  have hon : made.1.On other.2 := by rintro _ ⟨⟩; decide
  have hon' : other.1.On other.2 := by rintro _ ⟨⟩; decide
  exact ⟨hash, other.2, made.1, other.1, hhash, hleads, by decide, hequal,
    h.digest _ _ hon hon' hequal _ _ .refl .refl⟩

end Xacml.Bag
