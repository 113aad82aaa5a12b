/-
Leaves that must be present. To demand a value makes no difference to a leaf but that an empty bag is
refused; the failure hands on why the bag is empty. What fails without the demand is listed: no context,
a provider without a bag of the type, a path to the context of a selection that is not there, and what is
selected being no values of the type. Main statement: how a leaf answers with and without the demand,
and when it fails without it.
-/
import Xacml.Proofs.Bag.Homogeneous

namespace Xacml

/-! ## Failures without a demand -/

/-- No single value is held by the attribute in which a selection looks for the path to its context. -/
inductive Selector.NoPath (s : Selector) (c : Context) : Prop
  | failed {id : String} {e : Failure} : s.contextSelector = some id →
      c.attributeBag ⟨s.category, id, none⟩ .string = .error e → NoPath s c
  | missing {id : String} : s.contextSelector = some id →
      c.attributeBag ⟨s.category, id, none⟩ .string = .ok none → NoPath s c
  | empty {id : String} {found : AttributeBag} {reason : Option Failure} :
      s.contextSelector = some id →
      c.attributeBag ⟨s.category, id, none⟩ .string = .ok (some found) →
      found.bag.contents = .empty reason → NoPath s c
  | several {id : String} {found : AttributeBag} {values : List AttributeValue} :
      s.contextSelector = some id →
      c.attributeBag ⟨s.category, id, none⟩ .string = .ok (some found) →
      found.bag.contents = .multi values → NoPath s c

/-- Asked for strings, a context has answered with a value that is none. -/
inductive Selector.Misled (s : Selector) (c : Context) : Prop
  | intro {id : String} {found : AttributeBag} {v : AttributeValue} :
      s.contextSelector = some id →
      c.attributeBag ⟨s.category, id, none⟩ .string = .ok (some found) →
      found.bag.contents = .single v → v.type ≠ .string → Misled s c

namespace Leaf

/-- Why a leaf has no bag of its type. -/
inductive Unanswered : Leaf → Option Context → Prop
  | noContext {l : Leaf} : Unanswered l none
  | failed {d : Designator} {c : Context} {e : Failure} : d.provided c = .error e →
      Unanswered (designator d) (some c)
  | noBag {d : Designator} {c : Context} : d.provided c = .ok none →
      Unanswered (designator d) (some c)
  | otherType {d : Designator} {c : Context} {found : AttributeBag} :
      d.provided c = .ok (some found) → found.bag.element ≠ d.type →
      Unanswered (designator d) (some c)
  | noPath {s : Selector} {c : Context} {content : Content} :
      c.content s.category = some content → s.NoPath c → Unanswered (selector s) (some c)
  | notSelected {s : Selector} {c : Context} {content : Content} {path : Option String}
      {e : Failure} : c.content s.category = some content → s.contextPath c = .ok path →
      s.path.select content path = .error e → Unanswered (selector s) (some c)
  | notRead {s : Selector} {c : Context} {content : Content} {path : Option String}
      {texts : List String} {text : String} {fault : AttributeValue.LexicalFault} :
      c.content s.category = some content → s.contextPath c = .ok path →
      s.path.select content path = .ok texts → text ∈ texts →
      AttributeValue.read s.type text = .error fault → Unanswered (selector s) (some c)

/-- A leaf has content to select from, and a path to its context that is no string. -/
inductive Misled : Leaf → Option Context → Prop
  | selector {s : Selector} {c : Context} {content : Content} :
      c.content s.category = some content → s.Misled c → Misled (selector s) (some c)

end Leaf

/-- The path to the context of a selection, by what the attribute that holds it is answered with. -/
theorem Selector.contextPath_of_some {s : Selector} {c : Context} {id : String}
    (hid : s.contextSelector = some id) : s.contextPath c =
      match c.attributeBag ⟨s.category, id, none⟩ .string with
      | .error e => .error e
      | .ok none => .error (.of (.noContextPath s.label (AttributeName.text ⟨s.category, id, none⟩)))
      | .ok (some found) =>
        match found.bag.contents with
        | .single (.string path) => .ok (some path)
        | .multi values => .error (.of (.tooManyElements found.bag.element values.length))
        | _ => .error (.of (.noContextPath s.label (AttributeName.text ⟨s.category, id, none⟩))) := by
  unfold contextPath
  rw [hid]
  dsimp only
  rcases c.attributeBag ⟨s.category, id, none⟩ .string with e | (_ | found)
  · rfl
  · rfl
  · rw [ok_bind]
    dsimp only
    unfold Bag.single?
    rcases found.bag.contents with _ | (_ | _ | _ | _ | _ | _ | _ | _ | _) | _ <;> rfl

theorem Selector.contextPath_fails {s : Selector} {c : Context} :
    (∃ e, s.contextPath c = .error e) ↔ s.NoPath c ∨ s.Misled c := by
  constructor
  · rintro ⟨e, h⟩
    cases hid : s.contextSelector with
    | none =>
      unfold contextPath at h
      rw [hid] at h
      cases h
    | some id =>
      rw [contextPath_of_some hid] at h
      split at h
      · exact .inl (.failed hid ‹_›)
      · exact .inl (.missing hid ‹_›)
      · rename_i found hfound
        cases hbag : found.bag.contents with
        | empty reason => exact .inl (.empty hid hfound hbag)
        | multi values => exact .inl (.several hid hfound hbag)
        | single v =>
          refine .inr (.intro hid hfound hbag fun hv => ?_)
          rw [hbag] at h
          cases v <;> cases hv
          cases h
  · rintro ((⟨hid, h⟩ | ⟨hid, h⟩ | ⟨hid, h, hbag⟩ | ⟨hid, h, hbag⟩) | ⟨hid, h, hbag, hv⟩)
    all_goals rw [contextPath_of_some hid, h]
    · exact ⟨_, rfl⟩
    · exact ⟨_, rfl⟩
    all_goals
      dsimp only
      rw [hbag]
    · exact ⟨_, rfl⟩
    · exact ⟨_, rfl⟩
    · split
      · rename_i heq
        cases heq
        exact absurd rfl hv
      · exact ⟨_, rfl⟩
      · exact ⟨_, rfl⟩

/-- A list of texts is not read just if one of them is not. -/
theorem mapM_readFound_fails {t : AttributeType} {texts : List String} :
    (∃ e, texts.mapM (AttributeValue.readFound t) = .error e) ↔
      ∃ text ∈ texts, ∃ fault, AttributeValue.read t text = .error fault := by
  induction texts with
  | nil => exact iff_of_false (by rintro ⟨_, ⟨⟩⟩) (by rintro ⟨_, ⟨⟩, _⟩)
  | cons text rest ih =>
    rw [List.mapM_cons, List.exists_mem_cons_iff, ← ih]
    cases hread : AttributeValue.read t text with
    | error fault =>
      rw [AttributeValue.readFound, hread]
      exact iff_of_true ⟨_, rfl⟩ (.inl ⟨fault, rfl⟩)
    | ok v =>
      have hfound : AttributeValue.readFound t text = .ok v := by
        rw [AttributeValue.readFound, hread]
        rfl
      rw [hfound, ok_bind]
      cases rest.mapM (AttributeValue.readFound t) with
      | error e => exact iff_of_true ⟨e, rfl⟩ (.inr ⟨e, rfl⟩)
      | ok vs =>
        refine iff_of_false (by rintro ⟨_, ⟨⟩⟩) ?_
        rintro (⟨_, ⟨⟩⟩ | ⟨_, ⟨⟩⟩)

theorem Bag.readFound_fails {t : AttributeType} {texts : List String} :
    (∃ e, Bag.readFound t texts = .error e) ↔
      ∃ text ∈ texts, ∃ fault, AttributeValue.read t text = .error fault :=
  (exists_congr fun _ => readFound_eq_error_iff).trans mapM_readFound_fails

theorem Selector.selected_of_some {s : Selector} {c : Context} {content : Content}
    (h : c.content s.category = some content) : s.selected c = (do
      let path ← s.contextPath c
      let texts ← (s.path.select content path).mapError (.causedBy (.selection s.label))
      Bag.readFound s.type texts) := by
  unfold selected
  rw [h]

theorem Selector.selected_fails {s : Selector} {c : Context} :
    (∃ e, s.selected c = .error e) ↔
      (Leaf.selector s).Unanswered (some c) ∨ (Leaf.selector s).Misled (some c) := by
  constructor
  · rintro ⟨e, h⟩
    cases hcontent : c.content s.category with
    | none =>
      unfold selected at h
      rw [hcontent] at h
      cases h
    | some content =>
      rw [selected_of_some hcontent] at h
      cases hpath : s.contextPath c with
      | error e =>
        exact (contextPath_fails.1 ⟨e, hpath⟩).imp (.noPath hcontent) (.selector hcontent)
      | ok path =>
        refine .inl ?_
        rw [hpath, ok_bind] at h
        cases htexts : s.path.select content path with
        | error e => exact .notSelected hcontent hpath htexts
        | ok texts =>
          rw [htexts, Eval.mapError_ok, ok_bind] at h
          obtain ⟨text, hmem, fault, hfault⟩ := Bag.readFound_fails.1 ⟨e, h⟩
          exact .notRead hcontent hpath htexts hmem hfault
  · have hpathless {content : Content} (hcontent : c.content s.category = some content)
        (h : s.NoPath c ∨ s.Misled c) : ∃ e, s.selected c = .error e := by
      obtain ⟨e, he⟩ := contextPath_fails.2 h
      rw [selected_of_some hcontent, he]
      exact ⟨e, rfl⟩
    rintro (h | ⟨hcontent, h⟩)
    · cases h with
      | noPath hcontent h => exact hpathless hcontent (.inl h)
      | notSelected hcontent hpath htexts =>
        rw [selected_of_some hcontent, hpath, ok_bind, htexts]
        exact ⟨_, rfl⟩
      | notRead hcontent hpath htexts hmem hfault =>
        obtain ⟨e, he⟩ := Bag.readFound_fails.2 ⟨_, hmem, _, hfault⟩
        rw [selected_of_some hcontent, hpath, ok_bind, htexts, Eval.mapError_ok, ok_bind, he]
        exact ⟨e, rfl⟩
    · exact hpathless hcontent (.inr h)

/-! ## The demand -/

/-- How the answers without a demand for a value and with it go together: a failure and a bag with
values stay, and an empty bag turns into a failure that hands on why the bag is empty. -/
inductive Demanded (label : String) : Except Failure Value → Except Failure Value → Prop
  | failed (e : Failure) : Demanded label (.error e) (.error e)
  | present {b : Bag} : b.isEmpty = false → Demanded label (.ok (.bag b)) (.ok (.bag b))
  | absent {b : Bag} {e : Failure} : b.isEmpty = true →
      e.frame = ⟨.missingAttribute, .absent label⟩ → e.cause? = b.reason? →
      Demanded label (.ok (.bag b)) (.error e)

theorem demanded_requirePresent (label : String) (found : Except Failure Bag) :
    Demanded label (found.map .bag) ((found >>= requirePresent true label).map .bag) := by
  cases found with
  | error e => exact .failed e
  | ok b =>
    rw [ok_bind]
    unfold requirePresent
    cases hempty : b.isEmpty with
    | false => exact .present hempty
    | true =>
      cases hreason : b.reason? with
      | none => exact .absent hempty rfl hreason.symm
      | some reason => exact .absent hempty rfl hreason.symm

namespace Leaf

/-- The leaf with a demand for a value, or without it. -/
def demanding (must : Bool) : Leaf → Leaf
  | designator d => designator { d with mustBePresent := must }
  | selector s => selector { s with mustBePresent := must }
  | supplied s => supplied s

def label : Leaf → String
  | designator d => d.label
  | selector s => s.label
  | supplied s => s.label

/-- What the leaf evaluates to as an expression, with a demand for a value or without it. -/
def outcome (l : Leaf) (must : Bool) (ctx : Option Context) (c : Pattern.Cache) :
    Except Failure Value :=
  ((Expr.leaf (l.demanding must)).eval ctx c).result

theorem outcome_eq (l : Leaf) (must : Bool) (ctx : Option Context) (c : Pattern.Cache) :
    l.outcome must ctx c = (l.demanding must).answer ctx := by
  unfold outcome
  rw [Expr.eval]
  rfl

end Leaf

/-- What a designator finds, before it is looked at whether that is enough. -/
def Designator.found (d : Designator) (ctx : Option Context) : Except Failure Bag :=
  match ctx with
  | none => .error (.of (.noContext d.label))
  | some c =>
    match d.provided c with
    | .error e => .error (.wrap (.resolution d.label) e)
    | .ok none => .error (.of (.unknownReason d.label))
    | .ok (some found) =>
      if found.bag.element = d.type then .ok found.bag
      else .error (.of (.providerType d.label found.bag.element))

/-- What a selector finds, before it is looked at whether that is enough. -/
def Selector.found (s : Selector) (ctx : Option Context) : Except Failure Bag :=
  match ctx with
  | none => .error (.of (.noContext s.label))
  | some c => s.selected c

theorem Designator.answer_eq_found (d : Designator) (ctx : Option Context) :
    d.answer ctx = d.found ctx >>= requirePresent d.mustBePresent d.label := by
  unfold answer found
  cases ctx with
  | none => rfl
  | some c =>
    dsimp only
    rw [ok_bind]
    rcases d.provided c with e | (_ | found)
    · rfl
    · rfl
    · rw [Eval.mapError_ok, ok_bind]
      dsimp only
      rw [ok_bind]
      split
      · rw [ok_bind]
      · rfl

theorem Selector.answer_eq_found (s : Selector) (ctx : Option Context) :
    s.answer ctx = s.found ctx >>= requirePresent s.mustBePresent s.label := by
  cases ctx <;> rfl

/-- Without a demand whatever is found is the answer. -/
theorem bind_requirePresent_false (found : Except Failure Bag) (label : String) :
    (found >>= requirePresent false label) = found := by
  cases found <;> rfl

theorem Designator.found_fails (d : Designator) (ctx : Option Context) :
    (∃ e, d.found ctx = .error e) ↔ (Leaf.designator d).Unanswered ctx := by
  unfold found
  cases ctx with
  | none => exact iff_of_true ⟨_, rfl⟩ .noContext
  | some c =>
    dsimp only
    constructor
    · rintro ⟨e, h⟩
      split at h
      · exact .failed ‹_›
      · exact .noBag ‹_›
      · split_ifs at h with htype
        exact .otherType ‹_› htype
    · intro h
      cases h with
      | failed h => rw [h]; exact ⟨_, rfl⟩
      | noBag h => rw [h]; exact ⟨_, rfl⟩
      | otherType h htype => rw [h]; exact ⟨_, if_neg htype⟩

theorem Selector.found_fails (s : Selector) (ctx : Option Context) :
    (∃ e, s.found ctx = .error e) ↔
      (Leaf.selector s).Unanswered ctx ∨ (Leaf.selector s).Misled ctx := by
  cases ctx with
  | none => exact iff_of_true ⟨_, rfl⟩ (.inl .noContext)
  | some c => exact selected_fails

theorem Designator.element_of_found {d : Designator} {ctx : Option Context} {b : Bag}
    (h : d.found ctx = .ok b) : b.element = d.type := by
  unfold found at h
  repeat' split at h
  all_goals cases h
  assumption

theorem Selector.element_of_found {s : Selector} {ctx : Option Context} {b : Bag}
    (h : s.found ctx = .ok b) : b.element = s.type := by
  have hanswer : ({ s with mustBePresent := false } : Selector).answer ctx = .ok b :=
    (answer_eq_found _ ctx).trans ((bind_requirePresent_false _ _).trans h)
  exact (settles_iff.1 (answer_settles { s with mustBePresent := false })).1 b hanswer

/-- A context that answers with strings when it is asked for strings misleads no selector. -/
theorem Context.Typed.not_misled {c : Context} (h : c.Typed) (s : Selector) : ¬ s.Misled c := by
  rintro ⟨hid, hfound, hbag, hv⟩
  refine hv ((Bag.type_of_mem ?_).trans (h _ _ _ hfound))
  unfold Bag.values
  rw [hbag]
  exact List.mem_singleton_self _

namespace Leaf

/-- A designator and a selector find a bag of the type that they declare, or fail for one of the
reasons listed; and all that the demand does is to look at what is found. -/
theorem exists_found {l : Leaf} (hl : ∀ s, l ≠ supplied s) (ctx : Option Context)
    (c : Pattern.Cache) : ∃ found : Except Failure Bag,
      l.outcome false ctx c = found.map .bag ∧
      l.outcome true ctx c = (found >>= requirePresent true l.label).map .bag ∧
      (∀ b, found = .ok b → (Value.bag b).datatype = l.datatype) ∧
      ((∃ e, found = .error e) ↔ l.Unanswered ctx ∨ l.Misled ctx) := by
  rw [outcome_eq, outcome_eq]
  cases l with
  | designator d =>
    have hanswer (must : Bool) : (designator d |>.demanding must).answer ctx =
        (d.found ctx >>= requirePresent must d.label).map .bag :=
      congrArg (Except.map Value.bag) (Designator.answer_eq_found { d with mustBePresent := must } ctx)
    refine ⟨d.found ctx, ?_, hanswer true, fun b hb => ?_, ?_⟩
    · rw [hanswer, bind_requirePresent_false]
    · exact congrArg Datatype.bag (Designator.element_of_found hb)
    · rw [Designator.found_fails]
      exact ⟨.inl, fun h => h.resolve_right nofun⟩
  | selector s =>
    have hanswer (must : Bool) : (selector s |>.demanding must).answer ctx =
        (s.found ctx >>= requirePresent must s.label).map .bag :=
      congrArg (Except.map Value.bag) (Selector.answer_eq_found { s with mustBePresent := must } ctx)
    refine ⟨s.found ctx, ?_, hanswer true, fun b hb => ?_, Selector.found_fails s ctx⟩
    · rw [hanswer, bind_requirePresent_false]
    · exact congrArg Datatype.bag (Selector.element_of_found hb)
  | supplied s => exact absurd rfl (hl s)

/-- To demand a value of a designator or a selector only refuses empty bags. Without the demand it
answers with a bag of the type that it declares, or fails for one of the reasons listed; a selector
without content does not fail. -/
theorem presence_demanded {l : Leaf} (hl : ∀ s, l ≠ supplied s) (ctx : Option Context)
    (c : Pattern.Cache) :
    Demanded l.label (l.outcome false ctx c) (l.outcome true ctx c) ∧
    (∀ v, l.outcome false ctx c = .ok v → v.datatype = l.datatype) ∧
    ((∃ e, l.outcome false ctx c = .error e) ↔ l.Unanswered ctx ∨ l.Misled ctx) ∧
    ((∀ r ∈ ctx, r.Typed) → ¬ l.Misled ctx) ∧
    ∀ s r, l = selector s → ctx = some r → r.content s.category = none →
      l.outcome false ctx c = .ok (.bag (.emptyBecause s.type (.of (.noContent s.category)))) := by
  obtain ⟨found, hlenient, hstrict, htype, hfails⟩ := exists_found hl ctx c
  refine ⟨?_, ?_, ?_, ?_, ?_⟩
  · rw [hlenient, hstrict]
    exact demanded_requirePresent l.label found
  · intro v hv
    rw [hlenient] at hv
    cases found with
    | error e => cases hv
    | ok b =>
      cases hv
      exact htype b rfl
  · rw [hlenient, ← hfails]
    cases found with
    | error e => exact iff_of_true ⟨e, rfl⟩ ⟨e, rfl⟩
    | ok b => exact iff_of_false (by rintro ⟨_, ⟨⟩⟩) (by rintro ⟨_, ⟨⟩⟩)
  · rintro hctx ⟨-, h⟩
    exact (hctx _ rfl).not_misled _ h
  · rintro s r rfl rfl hcontent
    rw [outcome_eq]
    show (Selector.answer _ _).map Value.bag = _
    rw [Selector.answer_eq_found, Selector.found, Selector.selected, hcontent]
    rfl

/-- An attribute that is not in a request, looked up with the demand. -/
theorem presence_demanded_not_in_request :
    let l := designator ⟨⟨"subject", "age", none⟩, .integer, true, .request⟩
    (∀ s, l ≠ supplied s) ∧ ∃ e, l.outcome true (some Request.empty.context) (.empty 0) = .error e ∧
      e.frame = ⟨.missingAttribute, .absent l.label⟩ ∧
      e.cause? = some (.of (.notInRequest "subject#age")) := by
  intro l
  have hl : ∀ s, l ≠ supplied s := nofun
  have hlenient : l.outcome false (some Request.empty.context) (.empty 0) =
      .ok (.bag (.emptyBecause .integer (.of (.notInRequest "subject#age")))) := by
    rw [outcome_eq]
    rfl
  obtain ⟨hdemanded, -⟩ := presence_demanded hl (some Request.empty.context) (.empty 0)
  rw [hlenient] at hdemanded
  refine ⟨hl, ?_⟩
  generalize l.outcome true (some Request.empty.context) (.empty 0) = strict at hdemanded ⊢
  cases hdemanded with
  | present hempty => cases hempty
  | absent _ hframe hcause => exact ⟨_, rfl, hframe, hcause⟩

end Leaf

end Xacml
