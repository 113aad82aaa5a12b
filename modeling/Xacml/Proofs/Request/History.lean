/-
Requests and the additions that made them. Whatever is added, under whatever names and in whatever
order, a lookup finds the values of its type that were added under the names that answer it, each as
often as it was added, and nothing only if no such name was ever given. The order of the additions
can be seen only in the order of the values, later additions take nothing away, and a lookup without
an issuer finds what those with an issuer find together, and the values that have none.
-/
import Xacml.Request
import Xacml.Proofs.Bag.Multiset
import Mathlib.Algebra.BigOperators.Group.Finset.Basic
import Mathlib.Algebra.BigOperators.Group.Finset.Piecewise
import Mathlib.Algebra.Order.Group.Multiset

namespace Xacml

/-! ## Names -/

namespace AttributeName

variable {n other : AttributeName}

/-- An attribute named `other` answers a lookup of `n`: category and id are the same, and the issuer
is, unless none is asked for. -/
def AnsweredBy (n other : AttributeName) : Prop :=
  n.category = other.category ∧ n.id = other.id ∧ (n.issuer = none ∨ n.issuer = other.issuer)

instance (n other : AttributeName) : Decidable (n.AnsweredBy other) :=
  inferInstanceAs (Decidable (_ ∧ _ ∧ (_ ∨ _)))

theorem matchesName_eq : n.matchesName other = decide (n.AnsweredBy other) := by
  rw [Bool.eq_iff_iff, decide_eq_true_iff]
  unfold matchesName AnsweredBy
  simp only [Bool.and_eq_true, Bool.or_eq_true, beq_iff_eq, Option.isNone_iff_eq_none, and_assoc]

/-- The same attribute from one issuer. -/
def issuedBy (n : AttributeName) (issuer : String) : AttributeName := { n with issuer := some issuer }

/-- What answers a lookup without an issuer has none itself, or answers the lookup of its own. -/
theorem answeredBy_iff_of_issuer_eq_none (h : n.issuer = none) :
    n.AnsweredBy other ↔ other = n ∨ ∃ issuer, (n.issuedBy issuer).AnsweredBy other := by
  obtain ⟨category, id, issuer⟩ := n
  obtain ⟨category', id', issuer'⟩ := other
  subst h
  cases issuer' <;> simp [AnsweredBy, issuedBy, eq_comm]

theorem issuer_of_answeredBy {issuer : String} (h : (n.issuedBy issuer).AnsweredBy other) :
    other.issuer = some issuer := by
  obtain ⟨-, -, h | h⟩ := h
  · cases h
  · exact h.symm

end AttributeName

namespace Request

open AttributeName

/-! ## Additions -/

/-- What can be added to a request. -/
inductive Addition where
  | value (name : AttributeName) (v : AttributeValue)
  | values (name : AttributeName) (vs : List AttributeValue)
  | content (category : String) (c : Content)

namespace Addition

def apply (r : Request) : Addition → Request
  | value name v => r.addValue name v
  | values name vs => r.addValues name vs
  | content category c => r.setContent category c

/-- The values that are added, if only none, and their name. -/
def filed? : Addition → Option (AttributeName × List AttributeValue)
  | value name v => some (name, [v])
  | values name vs => some (name, vs)
  | content _ _ => none

/-- The name of an attribute is given. -/
def Names (a : Addition) (name : AttributeName) : Prop := ∃ vs, a.filed? = some (name, vs)

/-- The values of type `t` that are added under a name with the property `p`. -/
def adds (p : AttributeName → Prop) [DecidablePred p] (t : AttributeType) (a : Addition) :
    Multiset AttributeValue :=
  match a.filed? with
  | some (name, vs) => if p name then Multiset.filter (·.type = t) vs else 0
  | none => 0

theorem attributes_apply (r : Request) (a : Addition) : (a.apply r).attributes =
    match a.filed? with
    | some (name, vs) => file name vs r.attributes
    | none => r.attributes := by
  cases a <;> rfl

end Addition

/-- The requests that additions make. Entries have no order of their own. -/
inductive Made : List Addition → Request → Prop
  | empty : Made [] Request.empty
  | add {history : List Addition} {r : Request} (a : Addition) :
      Made history r → Made (history ++ [a]) (a.apply r)
  | rearrange {history : List Addition} {r r' : Request} : Made history r →
      r.attributes.Perm r'.attributes → r.contents.Perm r'.contents → Made history r'

/-- The request that additions make one after the other. -/
def built (history : List Addition) : Request := history.foldl Addition.apply empty

theorem made_built (history : List Addition) : Made history (built history) := by
  induction history using List.reverseRecOn with
  | nil => exact .empty
  | append_singleton history a ih =>
    unfold built at ih ⊢
    rw [List.foldl_append]
    exact .add a ih

variable {r r' : Request} {history history' later : List Addition}
variable {p : AttributeName → Prop} [DecidablePred p] {t : AttributeType} {n : AttributeName}

/-! ## Values -/

/-- The values of type `t` in the entries whose names have the property `p`. -/
def valuesUnder (p : AttributeName → Prop) [DecidablePred p] (t : AttributeType)
    (entries : List (AttributeName × List AttributeValue)) : Multiset AttributeValue :=
  (((entries.filter fun entry => p entry.1).flatMap (·.2)).filter (·.type = t) :
    List AttributeValue)

theorem valuesUnder_cons (name : AttributeName) (vs : List AttributeValue)
    (entries : List (AttributeName × List AttributeValue)) :
    valuesUnder p t ((name, vs) :: entries) =
      (if p name then Multiset.filter (·.type = t) vs else 0) + valuesUnder p t entries := by
  unfold valuesUnder
  by_cases hp : p name
  · rw [List.filter_cons, if_pos (decide_eq_true hp), List.flatMap_cons, List.filter_append,
      if_pos hp]
    rfl
  · rw [List.filter_cons, if_neg (by simpa using hp), if_neg hp, zero_add]

/-- Filing adds the values if their name has the property. -/
theorem valuesUnder_file (name : AttributeName) (vs : List AttributeValue)
    (entries : List (AttributeName × List AttributeValue)) :
    valuesUnder p t (file name vs entries) =
      valuesUnder p t entries + (if p name then Multiset.filter (·.type = t) vs else 0) := by
  induction entries with
  | nil => exact (valuesUnder_cons name vs []).trans (add_comm _ _)
  | cons entry entries ih =>
    obtain ⟨n, ws⟩ := entry
    unfold file
    by_cases hname : n = name
    · subst hname
      rw [if_pos rfl, valuesUnder_cons, valuesUnder_cons, ← Multiset.coe_add, Multiset.filter_add,
        ite_add_zero, add_right_comm]
    · rw [if_neg hname, valuesUnder_cons, valuesUnder_cons, ih, add_assoc]

theorem valuesUnder_apply (r : Request) (a : Addition) :
    valuesUnder p t (a.apply r).attributes = valuesUnder p t r.attributes + a.adds p t := by
  rw [Addition.attributes_apply, Addition.adds]
  cases a.filed? with
  | none => exact (add_zero _).symm
  | some filed => exact valuesUnder_file filed.1 filed.2 r.attributes

theorem valuesUnder_of_perm {entries entries' : List (AttributeName × List AttributeValue)}
    (h : entries.Perm entries') : valuesUnder p t entries = valuesUnder p t entries' :=
  Multiset.coe_eq_coe.2 (((h.filter _).flatMap_right _).filter _)

/-- After any history, the values under the names with a property are all that were added. -/
theorem Made.valuesUnder_eq (h : Made history r) :
    valuesUnder p t r.attributes = (history.map (·.adds p t)).sum := by
  induction h with
  | empty => rfl
  | add a _ ih =>
    rw [valuesUnder_apply, ih, List.map_append, List.sum_append, List.map_singleton,
      List.sum_singleton]
  | rearrange _ hperm _ ih => rw [← valuesUnder_of_perm hperm, ih]

/-! ## Names -/

theorem mem_names_file (name : AttributeName) (vs : List AttributeValue)
    (entries : List (AttributeName × List AttributeValue)) :
    n ∈ (file name vs entries).map (·.1) ↔ n ∈ entries.map (·.1) ∨ n = name := by
  induction entries with
  | nil => simp [file]
  | cons entry entries ih =>
    obtain ⟨m, ws⟩ := entry
    unfold file
    split_ifs with hname
    · subst hname
      simp only [List.map_cons, List.mem_cons]
      tauto
    · simp only [List.map_cons, List.mem_cons, ih, or_assoc]

/-- The names of the entries are those that were given. -/
theorem Made.mem_names_iff (h : Made history r) :
    n ∈ r.attributes.map (·.1) ↔ ∃ a ∈ history, a.Names n := by
  induction h with
  | empty => simp [Request.empty]
  | @add history r a _ ih =>
    have hnames : n ∈ (a.apply r).attributes.map (·.1) ↔ n ∈ r.attributes.map (·.1) ∨ a.Names n := by
      rw [Addition.attributes_apply, Addition.Names]
      cases a.filed? with
      | none => simp
      | some filed =>
        refine (mem_names_file filed.1 filed.2 r.attributes).trans (or_congr_right ?_)
        simp [Prod.ext_iff, eq_comm]
    rw [hnames, ih]
    simp only [List.mem_append, List.mem_singleton, or_and_right, exists_or, exists_eq_left]
  | rearrange _ hperm _ ih => rw [← (hperm.map _).mem_iff, ih]

/-! ## Lookups -/

theorem answering_eq (r : Request) (n : AttributeName) :
    r.answering n = r.attributes.filter fun entry => n.AnsweredBy entry.1 := by
  unfold answering
  exact List.filter_congr fun entry _ => matchesName_eq

/-- Nothing is found if no entry answers the lookup, else a bag of the values that do. -/
theorem attributeBag?_cases (r : Request) (n : AttributeName) (t : AttributeType) :
    (r.attributeBag? n t = none ∧ (∀ m ∈ r.attributes.map (·.1), ¬ n.AnsweredBy m)) ∨
    (∃ b : Bag, r.attributeBag? n t = some (.ofSource b .request) ∧ b.element = t ∧
      (b.values : Multiset AttributeValue) = valuesUnder n.AnsweredBy t r.attributes ∧
      ∃ m ∈ r.attributes.map (·.1), n.AnsweredBy m) := by
  unfold attributeBag?
  cases hentries : r.answering n with
  | nil =>
    refine .inl ⟨rfl, fun m hm hanswers => ?_⟩
    obtain ⟨entry, hentry, rfl⟩ := List.mem_map.1 hm
    rw [answering_eq, List.filter_eq_nil_iff] at hentries
    exact hentries entry hentry (decide_eq_true hanswers)
  | cons entry entries =>
    refine .inr ⟨_, rfl, rfl, ?_, ?_⟩
    · rw [Bag.values_ofList, ← hentries, answering_eq]
      rfl
    · have hentry : entry ∈ r.attributes.filter fun entry => n.AnsweredBy entry.1 := by
        rw [← answering_eq, hentries]
        exact List.mem_cons_self
      obtain ⟨hmem, hanswers⟩ := List.mem_filter.1 hentry
      exact ⟨entry.1, List.mem_map_of_mem hmem, of_decide_eq_true hanswers⟩

/-- The values that a lookup finds. -/
def found (r : Request) (n : AttributeName) (t : AttributeType) : Multiset AttributeValue :=
  (r.attributeBag? n t).elim 0 fun b => (b.bag.values : Multiset AttributeValue)

theorem found_eq (r : Request) (n : AttributeName) (t : AttributeType) :
    r.found n t = valuesUnder n.AnsweredBy t r.attributes := by
  unfold found
  rcases attributeBag?_cases r n t with ⟨hnone, hno⟩ | ⟨b, hsome, -, hvalues, -⟩
  · have hfilter : (r.attributes.filter fun entry => n.AnsweredBy entry.1) = [] := by
      rw [List.filter_eq_nil_iff]
      intro entry hentry
      simpa using hno entry.1 (List.mem_map_of_mem hentry)
    rw [hnone, valuesUnder, hfilter]
    rfl
  · rw [hsome]
    exact hvalues

theorem Made.attributeBag?_eq_none_iff (h : Made history r) :
    r.attributeBag? n t = none ↔ ∀ a ∈ history, ∀ m, a.Names m → ¬ n.AnsweredBy m := by
  have hnames : (∀ a ∈ history, ∀ m, a.Names m → ¬ n.AnsweredBy m) ↔
      ∀ m ∈ r.attributes.map (·.1), ¬ n.AnsweredBy m := by
    simp only [h.mem_names_iff]
    exact ⟨fun hno m ⟨a, ha, hm⟩ => hno a ha m hm, fun hno a ha m hm => hno m ⟨a, ha, hm⟩⟩
  rw [hnames]
  rcases attributeBag?_cases r n t with ⟨hnone, hno⟩ | ⟨b, hsome, -, -, m, hm, hanswers⟩
  · exact iff_of_true hnone hno
  · exact iff_of_false (by rw [hsome]; nofun) fun hno => hno m hm hanswers

theorem Made.attributeBag?_eq_some (h : Made history r) {b : AttributeBag}
    (hb : r.attributeBag? n t = some b) : b.bag.element = t ∧ b.source = some .request ∧
      (b.bag.values : Multiset AttributeValue) = (history.map (·.adds n.AnsweredBy t)).sum := by
  rcases attributeBag?_cases r n t with ⟨hnone, -⟩ | ⟨bag, hsome, htype, hvalues, -⟩
  · rw [hnone] at hb
    cases hb
  · rw [hsome] at hb
    cases hb
    exact ⟨htype, rfl, hvalues.trans h.valuesUnder_eq⟩

/-- The order of the additions does not matter to a lookup. -/
theorem Made.attributeBag?_of_perm (h : Made history r) (h' : Made history' r')
    (hperm : history.Perm history') :
    Option.Rel (fun b b' => b.same b' = true) (r.attributeBag? n t) (r'.attributeBag? n t) := by
  cases hb : r.attributeBag? n t with
  | none =>
    have hno := h.attributeBag?_eq_none_iff.1 hb
    rw [h'.attributeBag?_eq_none_iff.2 fun a ha => hno a (hperm.mem_iff.2 ha)]
    exact .none
  | some b =>
    cases hb' : r'.attributeBag? n t with
    | none =>
      have hno := h'.attributeBag?_eq_none_iff.1 hb'
      rw [h.attributeBag?_eq_none_iff.2 fun a ha => hno a (hperm.mem_iff.1 ha)] at hb
      cases hb
    | some b' =>
      obtain ⟨htype, hsource, hvalues⟩ := h.attributeBag?_eq_some hb
      obtain ⟨htype', hsource', hvalues'⟩ := h'.attributeBag?_eq_some hb'
      have hsum : (b.bag.values : Multiset AttributeValue) = b'.bag.values := by
        rw [hvalues, hvalues', (hperm.map _).sum_eq]
      have hsame : b.bag.same b'.bag = true :=
        Bag.same_of_perm (htype.trans htype'.symm) (Multiset.coe_eq_coe.1 hsum)
      refine .some ?_
      unfold AttributeBag.same
      rw [hsame, hsource, hsource']
      rfl

/-- What is found stays found, whatever is added. -/
theorem Made.attributeBag?_of_later (h : Made history r) (h' : Made (history ++ later) r')
    {b : AttributeBag} (hb : r.attributeBag? n t = some b) :
    ∃ b', r'.attributeBag? n t = some b' ∧
      (b.bag.values : Multiset AttributeValue) ≤ b'.bag.values := by
  cases hb' : r'.attributeBag? n t with
  | none =>
    have hno := h'.attributeBag?_eq_none_iff.1 hb'
    rw [h.attributeBag?_eq_none_iff.2 fun a ha => hno a (List.mem_append_left _ ha)] at hb
    cases hb
  | some b' =>
    refine ⟨b', rfl, ?_⟩
    rw [(h.attributeBag?_eq_some hb).2.2, (h'.attributeBag?_eq_some hb').2.2, List.map_append,
      List.sum_append]
    exact Multiset.le_add_right _ _

/-! ## Issuers -/

/-- What is added without an issuer, and for each of the issuers, is what is added for any. -/
theorem Addition.adds_of_issuer_eq_none (hn : n.issuer = none) {a : Addition}
    {issuers : Finset String} (hissuers : ∀ m i, a.Names m → n.AnsweredBy m → m.issuer = some i →
      i ∈ issuers) :
    a.adds n.AnsweredBy t = a.adds (· = n) t + ∑ i ∈ issuers, a.adds (n.issuedBy i).AnsweredBy t := by
  unfold adds
  cases hfiled : a.filed? with
  | none => simp
  | some filed =>
    obtain ⟨m, vs⟩ := filed
    dsimp only
    by_cases hanswers : n.AnsweredBy m
    · rw [if_pos hanswers]
      rcases (answeredBy_iff_of_issuer_eq_none hn).1 hanswers with rfl | ⟨i, hi⟩
      · rw [if_pos rfl, Finset.sum_eq_zero, add_zero]
        intro i _
        refine if_neg fun hi => ?_
        rw [issuer_of_answeredBy hi] at hn
        cases hn
      · have hissuer := issuer_of_answeredBy hi
        have hne : ¬ m = n := by
          rintro rfl
          rw [hissuer] at hn
          cases hn
        have hmem := hissuers m i ⟨vs, hfiled⟩ hanswers hissuer
        rw [if_neg hne, zero_add, Finset.sum_eq_single_of_mem i hmem, if_pos hi]
        intro j _ hj
        refine if_neg fun h => hj ?_
        exact Option.some.inj ((issuer_of_answeredBy h).symm.trans hissuer)
    · have hno : ¬ (m = n ∨ ∃ i, (n.issuedBy i).AnsweredBy m) := fun h =>
        hanswers ((answeredBy_iff_of_issuer_eq_none hn).2 h)
      rw [if_neg hanswers, if_neg fun h => hno (.inl h), zero_add, Finset.sum_eq_zero]
      intro i _
      exact if_neg fun h => hno (.inr ⟨i, h⟩)

theorem Made.found_of_issuer_eq_none (h : Made history r) (hn : n.issuer = none)
    {issuers : Finset String} (hissuers : ∀ a ∈ history, ∀ m i, a.Names m → n.AnsweredBy m →
      m.issuer = some i → i ∈ issuers) :
    r.found n t = valuesUnder (· = n) t r.attributes + ∑ i ∈ issuers, r.found (n.issuedBy i) t := by
  have hsplit : (history.map (·.adds n.AnsweredBy t)) = history.map fun a =>
      a.adds (· = n) t + ∑ i ∈ issuers, a.adds (n.issuedBy i).AnsweredBy t :=
    List.map_congr_left fun a ha => Addition.adds_of_issuer_eq_none hn (hissuers a ha)
  have hswap : (history.map fun a => ∑ i ∈ issuers, a.adds (n.issuedBy i).AnsweredBy t).sum =
      ∑ i ∈ issuers, (history.map (·.adds (n.issuedBy i).AnsweredBy t)).sum := by
    simpa using Multiset.sum_map_sum_map (history : Multiset Addition) issuers.val
  simp only [found_eq, h.valuesUnder_eq]
  rw [hsplit, List.sum_map_add, hswap]

/-! ## The law of lookups -/

/-- A lookup fails on no request, and finds no attribute just if none was named that answers it. Else
it finds the values of its type that were added under the names that do, each as often as it was
added, in whatever order that was. Additions that come later take nothing away. A lookup without an
issuer finds the values that have none, and those that are found for each of the issuers. -/
theorem Made.lookup_exact (h : Made history r) (n : AttributeName) (t : AttributeType) :
    r.context.attributeBag n t = .ok (r.attributeBag? n t) ∧
    (r.attributeBag? n t = none ↔ ∀ a ∈ history, ∀ m, a.Names m → ¬ n.AnsweredBy m) ∧
    (∀ b, r.attributeBag? n t = some b → b.bag.element = t ∧ b.source = some .request ∧
      (b.bag.values : Multiset AttributeValue) = (history.map (·.adds n.AnsweredBy t)).sum) ∧
    (∀ history' r', Made history' r' → history.Perm history' →
      Option.Rel (fun b b' => b.same b' = true) (r.attributeBag? n t) (r'.attributeBag? n t)) ∧
    (∀ later r', Made (history ++ later) r' → ∀ b, r.attributeBag? n t = some b →
      ∃ b', r'.attributeBag? n t = some b' ∧
        (b.bag.values : Multiset AttributeValue) ≤ b'.bag.values) ∧
    (n.issuer = none → ∀ issuers : Finset String,
      (∀ a ∈ history, ∀ m i, a.Names m → n.AnsweredBy m → m.issuer = some i → i ∈ issuers) →
        r.found n t = valuesUnder (· = n) t r.attributes +
          ∑ i ∈ issuers, r.found (n.issuedBy i) t) :=
  ⟨rfl, h.attributeBag?_eq_none_iff, fun _ => h.attributeBag?_eq_some,
    fun _ _ h' => h.attributeBag?_of_perm h', fun _ _ h' _ => h.attributeBag?_of_later h',
    fun hn _ => h.found_of_issuer_eq_none hn⟩

/-- Two issuers and none, and an attribute that is named without a value. -/
theorem lookup_exact_group : ∃ history r, Made history r ∧
    r.attributeBag? ⟨"subject", "role", none⟩ .string ≠ none ∧
    r.attributeBag? ⟨"subject", "age", none⟩ .string = none ∧
    ∃ b, r.attributeBag? ⟨"subject", "group", none⟩ .string = some b ∧
      (b.bag.values : Multiset AttributeValue) =
        ↑[AttributeValue.string "staff", .string "dev", .string "ops"] := by
  let history : List Addition :=
    [.value ⟨"subject", "group", some "hr"⟩ (.string "staff"),
      .values ⟨"subject", "group", none⟩ [.string "dev", .boolean true, .string "ops"],
      .values ⟨"subject", "role", some "hr"⟩ []]
  have law := (made_built history).lookup_exact
  refine ⟨history, built history, made_built history, nofun, rfl, _, rfl, ?_⟩
  exact ((law ⟨"subject", "group", none⟩ .string).2.2.1 _ rfl).2.2.trans (by rfl)

end Request

end Xacml
