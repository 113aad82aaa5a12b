/-
The store of compiled patterns over a whole history of requests. It holds the patterns that were
requested last, as many as it has room for, each in its compiled form; a text that denotes no pattern
leaves no trace. So what a request is answered does not depend on the history at all.
-/
import Mathlib.Data.Finset.Card
import Mathlib.Data.List.Permutation
import Xacml.Proofs.Footprint.Evaluation

namespace Xacml.Pattern.Cache

/-! ## Histories -/

/-- Whether a text denotes a pattern. -/
def denotes (text : String) : Bool := (compile? text).isSome

/-- The store after a history of requests, the latest first. -/
def after (capacity : Nat) : List String → Cache
  | [] => empty capacity
  | text :: earlier => ((after capacity earlier).request text).2

/-- The distinct texts of a history that denote patterns, the one that was requested last first. -/
def recent (history : List String) : List String := (history.filter denotes).eraseDups

/-- The texts whose patterns are held, in the order of the entries. -/
def texts (c : Cache) : List String := c.entries.map (·.1)

section Lists

variable {α : Type} [DecidableEq α]

/-- Elements may be dropped before or after repetitions. -/
theorem eraseDups_filter (p : α → Bool) : ∀ l : List α, (l.filter p).eraseDups = l.eraseDups.filter p
  | [] => rfl
  | a :: rest => by
    have hrest := eraseDups_filter p (rest.filter fun b => !b == a)
    rw [List.eraseDups_cons, List.filter_cons, List.filter_cons, ← hrest, List.filter_comm]
    by_cases ha : p a = true
    · rw [if_pos ha, if_pos ha, List.eraseDups_cons]
    · -- what is left differs from the element that is dropped
      have hdiffer : (rest.filter p).filter (fun b => !b == a) = rest.filter p := by
        refine List.filter_eq_self.2 fun b hb => ?_
        have hba : b ≠ a := fun h => ha (h ▸ (List.mem_filter.1 hb).2)
        simp [hba]
      rw [if_neg ha, if_neg ha, hdiffer]
termination_by l => l.length
decreasing_by exact Nat.lt_succ_of_le (List.length_filter_le _ _)

theorem nodup_eraseDups : ∀ l : List α, l.eraseDups.Nodup
  | [] => List.nodup_nil
  | a :: rest => by
    rw [List.eraseDups_cons, List.nodup_cons, List.mem_eraseDups]
    exact ⟨by simp, nodup_eraseDups _⟩
termination_by l => l.length
decreasing_by exact Nat.lt_succ_of_le (List.length_filter_le _ _)

theorem length_eraseDups (l : List α) : l.eraseDups.length = l.toFinset.card := by
  rw [← List.toFinset_card_of_nodup (nodup_eraseDups l)]
  congr 1
  ext a
  simp

/-- Dropping one element from the first few makes room for one more at most. -/
theorem take_filter_take {l : List α} (hl : l.Nodup) (a : α) (n : Nat) :
    ((l.take (n + 1)).filter (· != a)).take n = (l.filter (· != a)).take n := by
  induction l generalizing n with
  | nil => rfl
  | cons b rest ih =>
    obtain ⟨hb, hrest⟩ := List.nodup_cons.1 hl
    by_cases hba : b = a
    · subst hba
      have hkeep (l' : List α) (hsub : l' ⊆ rest) : l'.filter (· != b) = l' := by
        refine List.filter_eq_self.2 fun c hc => ?_
        have hcb : c ≠ b := fun h => hb (h ▸ hsub hc)
        simp [hcb]
      simp [hkeep _ (List.take_subset n rest), hkeep rest (List.Subset.refl _)]
    · cases n with
      | zero => simp
      | succ n => simp [hba, ih hrest n]

/-- The place of an element among the distinct ones is the number of those that come before it. -/
theorem idxOf_eraseDups_append {before after : List α} {a : α} (ha : a ∉ before) :
    (before ++ a :: after).eraseDups.idxOf a = before.toFinset.card := by
  have hkept : (a :: after).removeAll before = a :: after.removeAll before := by
    simp [List.removeAll, ha]
  have hbefore : a ∉ before.eraseDups := by rwa [List.mem_eraseDups]
  rw [List.eraseDups_append, hkept, List.eraseDups_cons, List.idxOf_append_of_notMem hbefore,
    List.idxOf_cons_self, Nat.add_zero, length_eraseDups]

end Lists

/-! ## Requests -/

@[simp] theorem capacity_request (c : Cache) (text : String) :
    (c.request text).2.capacity = c.capacity := by
  unfold request
  split
  · rfl
  · split <;> rfl

@[simp] theorem capacity_after (capacity : Nat) (history : List String) :
    (after capacity history).capacity = capacity := by
  induction history with
  | nil => rfl
  | cons text earlier ih => rw [after, capacity_request, ih]

theorem faithful_after (capacity : Nat) (history : List String) :
    (after capacity history).Faithful := by
  induction history with
  | nil => exact faithful_empty capacity
  | cons text earlier ih => exact (ih.request text).2

/-- What a faithful store does with a request is told by compiling. -/
theorem Faithful.request_eq {c : Cache} (h : c.Faithful) (text : String) :
    c.request text = match compile? text with
      | some p => (some p, c.use text p)
      | none => (none, c) := by
  have hanswer := (h.request text).1
  unfold Cache.request at hanswer ⊢
  cases hlookup : c.entries.lookup text with
  | some p =>
    rw [hlookup] at hanswer
    rw [← (hanswer : some p = compile? text)]
  | none => cases compile? text <;> rfl

theorem texts_use (c : Cache) (text : String) (p : Pattern) :
    (c.use text p).texts = (text :: c.texts.filter (· != text)).take c.capacity := by
  unfold texts use without
  rw [List.map_take, List.map_cons, List.filter_map]
  rfl

/-- A request puts its text in front, if it denotes a pattern. -/
theorem Faithful.texts_request {c : Cache} (h : c.Faithful) (text : String) :
    (c.request text).2.texts =
      if denotes text then (text :: c.texts.filter (· != text)).take c.capacity else c.texts := by
  rw [h.request_eq, denotes]
  cases compile? text with
  | some p => exact texts_use c text p
  | none => rfl

theorem recent_cons (text : String) (earlier : List String) :
    recent (text :: earlier) =
      if denotes text then text :: (recent earlier).filter (· != text) else recent earlier := by
  unfold recent
  rw [List.filter_cons]
  split
  · rw [List.eraseDups_cons, eraseDups_filter]
    rfl
  · rfl

/-- The store holds the patterns that were requested last, as many as it has room for. -/
theorem texts_after (capacity : Nat) (history : List String) :
    (after capacity history).texts = (recent history).take capacity := by
  induction history with
  | nil => exact List.take_nil.symm
  | cons text earlier ih =>
    have hnodup : (recent earlier).Nodup := nodup_eraseDups _
    rw [after, (faithful_after capacity earlier).texts_request, recent_cons, ih, capacity_after]
    split
    · cases capacity with
      | zero => rfl
      | succ n => rw [List.take_succ_cons, List.take_succ_cons, take_filter_take hnodup]
    · rfl

-- a text that denotes no pattern drives nothing out
example : (after 2 ["(", "b", "a", "b", "c"]).texts = ["b", "a"] := by
  rw [texts_after]
  cbv

theorem mem_recent {text : String} {history : List String} :
    text ∈ recent history ↔ denotes text = true ∧ text ∈ history := by
  rw [recent, List.mem_eraseDups, List.mem_filter, and_comm]

/-- As many patterns are more recent than one as have been requested since. -/
theorem idxOf_recent {text : String} {later earlier : List String} (ht : denotes text = true)
    (hlater : text ∉ later) :
    (recent (later ++ text :: earlier)).idxOf text = (later.filter denotes).toFinset.card := by
  have hfilter : text ∉ later.filter denotes := fun h => hlater (List.mem_filter.1 h).1
  rw [recent, List.filter_append, List.filter_cons, if_pos ht, idxOf_eraseDups_append hfilter]

/-- A pattern is held as long as fewer others have been requested since than there is room for. -/
theorem mem_texts_after {capacity : Nat} {history : List String} {text : String} :
    text ∈ (after capacity history).texts ↔ denotes text = true ∧ ∃ later earlier,
      history = later ++ text :: earlier ∧ text ∉ later ∧
        (later.filter denotes).toFinset.card < capacity := by
  rw [texts_after]
  constructor
  · intro h
    have hrecent : text ∈ recent history := (List.take_subset _ _) h
    obtain ⟨ht, hmem⟩ := mem_recent.1 hrecent
    obtain ⟨later, earlier, hsplit, hlater⟩ := List.eq_append_cons_of_mem hmem
    rw [List.mem_take_iff_idxOf_lt hrecent, hsplit, idxOf_recent ht hlater] at h
    exact ⟨ht, later, earlier, hsplit, hlater, h⟩
  · rintro ⟨ht, later, earlier, rfl, hlater, hroom⟩
    have hrecent : text ∈ recent (later ++ text :: earlier) := mem_recent.2 ⟨ht, by simp⟩
    rw [List.mem_take_iff_idxOf_lt hrecent, idxOf_recent ht hlater]
    exact hroom

theorem size_after (capacity : Nat) (history : List String) :
    (after capacity history).size = min capacity (history.filter denotes).toFinset.card := by
  have hlength : (after capacity history).size = (after capacity history).texts.length :=
    (List.length_map _).symm
  rw [hlength, texts_after, List.length_take, recent, length_eraseDups]

/-- A request is answered by compiling. -/
theorem Faithful.pattern_eq {c : Cache} (h : c.Faithful) (text : String) :
    Eval.pattern text c = match compile? text with
      | some p => ⟨.ok p, c.use text p, []⟩
      | none => ⟨.error (.of (.pattern text)), c, []⟩ := by
  unfold Eval.pattern
  rw [h.request_eq]
  cases compile? text <;> rfl

/-! ## Whole histories -/

/-- What a store is like after a history of requests, the latest first. -/
structure Remembers (capacity : Nat) (history : List String) (c : Cache) : Prop where
  /-- It holds the patterns that were requested last, the latest first, -/
  texts : c.texts = (recent history).take capacity
  /-- as many as it has room for, or all of them, -/
  size : c.size = min capacity (history.filter denotes).toFinset.card
  /-- each of them in its compiled form. -/
  compiled : ∀ entry ∈ c.entries, compile? entry.1 = some entry.2
  /-- So a pattern is held as long as not too many others have been requested since. -/
  held : ∀ text, text ∈ c.texts ↔ denotes text = true ∧ ∃ later earlier,
    history = later ++ text :: earlier ∧ text ∉ later ∧
      (later.filter denotes).toFinset.card < capacity
  /-- Without room nothing is held. -/
  noRoom : capacity = 0 → c.entries = []
  /-- The next request is answered with the compiled pattern, -/
  answers : ∀ text p, compile? text = some p →
    (Eval.pattern text c).result = .ok p
  /-- or with a syntax error if there is none, and then the store stays as it is. -/
  refuses : ∀ text, compile? text = none →
    ∃ e : Failure, e = .of (.pattern text) ∧ e.status = .syntaxError ∧
      Eval.pattern text c = ⟨.error e, c, []⟩

/-- However many patterns are requested, and in whatever order, the store holds those that were
requested last, and every request is answered as if there were no store. -/
theorem remembers_after (capacity : Nat) (history : List String) :
    Remembers capacity history (after capacity history) := by
  have hfaithful := faithful_after capacity history
  refine
    { texts := texts_after capacity history
      size := size_after capacity history
      compiled := hfaithful
      held := fun text => mem_texts_after
      noRoom := ?_
      answers := fun text p hp => ?_
      refuses := fun text hnone => ⟨_, rfl, rfl, ?_⟩ }
  · rintro rfl
    have hsize := size_after 0 history
    rw [Nat.zero_min] at hsize
    exact List.eq_nil_of_length_eq_zero hsize
  · rw [hfaithful.pattern_eq, hp]
  · rw [hfaithful.pattern_eq, hnone]

end Xacml.Pattern.Cache
