/-
Leaves that ask a request. If the context answers every lookup with a bag of the type asked for,
designators and selectors answer with bags of the type that they declare. Their failures are theirs,
and none of these is a mismatch, except for what the context or the path hands over as a failure.
-/
import Xacml.Proofs.Typing.Expr

namespace Xacml

/-! ## Contexts -/

/-- A context answers a lookup with a bag of the type that was asked for. -/
def Context.Typed (ctx : Context) : Prop :=
  ∀ name t found, ctx.attributeBag name t = .ok (some found) → found.bag.element = t

/-- A request held in memory answers with bags of the type asked for. -/
theorem Request.context_typed (r : Request) : r.context.Typed := by
  intro name t found h
  have h : r.attributeBag? name t = some found := Except.ok.inj h
  unfold attributeBag? at h
  split at h <;> cases h
  rfl

/-- A failure that comes to a leaf from outside: from a lookup, as the reason of an empty bag, or
from a path. -/
inductive Leaf.Foreign (ctx : Context) : Leaf → Failure → Prop
  | lookup {d : Designator} {e : Failure} : ctx.attributeBag d.name d.type = .error e →
      Foreign ctx (.designator d) e
  | reason {d : Designator} {found : AttributeBag} {e : Failure} :
      ctx.attributeBag d.name d.type = .ok (some found) → found.bag.reason? = some e →
      Foreign ctx (.designator d) e
  | contextPath {s : Selector} {id : String} {e : Failure} : s.contextSelector = some id →
      ctx.attributeBag ⟨s.category, id, none⟩ .string = .error e → Foreign ctx (.selector s) e
  | path {s : Selector} {content : Content} {context : Option String} {e : Failure} :
      ctx.content s.category = some content → s.path.select content context = .error e →
      Foreign ctx (.selector s) e

/-- The frame was handed over to the leaf from outside. -/
def Leaf.HandsOn (ctx : Option Context) (l : Leaf) (frame : Frame) : Prop :=
  ∃ c e, ctx = some c ∧ l.Foreign c e ∧ frame ∈ e.chain

/-- Every mismatch that the failure names is a frame that satisfies `A`. -/
def Failure.NoMismatchBut (A : Frame → Prop) (e : Failure) : Prop :=
  ∀ frame ∈ e.chain, frame.problem.isMismatch = true → A frame

section NoMismatchBut

variable {A : Frame → Prop}

theorem noMismatchBut_of {p : Problem} (h : p.isMismatch = false) :
    (Failure.of p).NoMismatchBut A := by
  intro frame hf hm
  rw [List.mem_singleton.1 hf, Failure.of, h] at hm
  cases hm

theorem Failure.IsFault.noMismatchBut {e : Failure} (h : e.IsFault) : e.NoMismatchBut A := by
  obtain ⟨p, hp, rfl⟩ := h
  exact noMismatchBut_of hp

theorem Failure.NoMismatchBut.cons {e e' : Failure} (h : e.NoMismatchBut A) {s : Status}
    {p : Problem} (hp : p.isMismatch = false) (hchain : e'.chain = ⟨s, p⟩ :: e.chain) :
    e'.NoMismatchBut A := by
  intro frame hf hm
  rw [hchain] at hf
  rcases List.mem_cons.1 hf with rfl | hf
  · rw [hp] at hm; cases hm
  · exact h frame hf hm

theorem Failure.NoMismatchBut.wrap {e : Failure} (h : e.NoMismatchBut A) {p : Problem}
    (hp : p.isMismatch = false) : (Failure.wrap p e).NoMismatchBut A := h.cons hp rfl

theorem Failure.NoMismatchBut.causedBy {e : Failure} (h : e.NoMismatchBut A) {p : Problem}
    (hp : p.isMismatch = false) : (Failure.causedBy p e).NoMismatchBut A := h.cons hp rfl

end NoMismatchBut

/-! ## Answers -/

theorem requirePresent_settles {A : Frame → Prop} (mustBePresent : Bool) (label : String) {b : Bag}
    (h : ∀ e, b.reason? = some e → e.NoMismatchBut A) :
    Settles (· = b) (Failure.NoMismatchBut A) (requirePresent mustBePresent label b) := by
  unfold requirePresent
  refine settles_ite (fun _ => ?_) fun _ => rfl
  cases hr : b.reason? with
  | none => exact noMismatchBut_of rfl
  | some e => exact (h e hr).causedBy rfl

theorem settles_single? (b : Bag) : Settles (fun _ => True) Failure.IsFault b.single? := by
  unfold Bag.single?
  split
  · trivial
  · trivial
  · exact Failure.isFault_of rfl

section Answers

variable {ctx : Option Context}

theorem Designator.answer_settles (hctx : ∀ c ∈ ctx, c.Typed) {d : Designator}
    (hd : d.provider = .request) :
    Settles (·.element = d.type) (Failure.NoMismatchBut ((Leaf.designator d).HandsOn ctx))
      (d.answer ctx) := by
  unfold answer provided
  cases ctx with
  | none => exact noMismatchBut_of rfl
  | some c =>
    simp only [hd, ok_bind]
    cases hfound : c.attributeBag d.name d.type with
    | error e =>
      exact Failure.NoMismatchBut.wrap (fun frame hf _ => ⟨c, e, rfl, .lookup hfound, hf⟩) rfl
    | ok found =>
      -- whatever the bag, its type is the one asked for, so only its presence matters
      have hbag : ∀ b : Bag, b.element = d.type → (∀ e, b.reason? = some e →
            e.NoMismatchBut ((Leaf.designator d).HandsOn (some c))) →
          Settles (·.element = d.type) (Failure.NoMismatchBut ((Leaf.designator d).HandsOn (some c)))
            (if b.element = d.type then requirePresent d.mustBePresent d.label b
              else .error (.of (.providerType d.label b.element))) := by
        intro b hb hr
        rw [if_pos hb]
        exact (requirePresent_settles d.mustBePresent d.label hr).imp
          (by rintro _ rfl; exact hb) fun _ h => h
      cases found with
      | none =>
        refine hbag _ rfl ?_
        rintro e ⟨⟩
        exact noMismatchBut_of rfl
      | some found =>
        refine hbag found.bag (hctx c rfl _ _ _ hfound) fun e he frame hf _ => ?_
        exact ⟨c, e, rfl, .reason hfound he, hf⟩

theorem contextPath_settles {s : Selector} {c : Context} :
    Settles (fun _ => True) (Failure.NoMismatchBut ((Leaf.selector s).HandsOn (some c)))
      (s.contextPath c) := by
  unfold Selector.contextPath
  cases hid : s.contextSelector with
  | none => trivial
  | some id =>
    dsimp only
    cases hfound : c.attributeBag ⟨s.category, id, none⟩ .string with
    | error e => exact fun frame hf _ => ⟨c, e, rfl, .contextPath hid hfound, hf⟩
    | ok found =>
      cases found with
      | none => exact noMismatchBut_of rfl
      | some found =>
        simp only [ok_bind]
        refine Settles.bind ((settles_single? found.bag).imp (fun _ h => h)
          fun _ h => h.noMismatchBut) fun value _ => ?_
        split
        · trivial
        · exact noMismatchBut_of rfl

theorem Selector.answer_settles (s : Selector) :
    Settles (·.element = s.type) (Failure.NoMismatchBut ((Leaf.selector s).HandsOn ctx))
      (s.answer ctx) := by
  unfold answer selected
  cases ctx with
  | none => exact noMismatchBut_of rfl
  | some c =>
    simp only [ok_bind]
    refine Settles.bind (P := fun b : Bag => b.element = s.type ∧
      ∀ e, b.reason? = some e → e.NoMismatchBut ((Leaf.selector s).HandsOn (some c))) ?_
        fun b ⟨hb, hr⟩ => (requirePresent_settles s.mustBePresent s.label hr).imp
          (by rintro _ rfl; exact hb) fun _ h => h
    cases hcontent : c.content s.category with
    | none =>
      refine ⟨rfl, ?_⟩
      rintro e ⟨⟩
      exact noMismatchBut_of rfl
    | some content =>
      refine contextPath_settles.bind fun context _ => ?_
      refine Settles.bind (P := fun _ => True) ?_ fun texts _ => ?_
      · cases htexts : s.path.select content context with
        | ok texts => trivial
        | error e =>
          exact Failure.NoMismatchBut.causedBy
            (fun frame hf _ => ⟨c, e, rfl, .path hcontent htexts, hf⟩) rfl
      · have htexts := Settles.mapM (Library.settles_readFound s.type) texts
        refine settles_iff.2 ⟨fun b hb => ?_, fun e he => ?_⟩
        · obtain ⟨values, hvalues, rfl⟩ := Bag.readFound_eq_ok hb
          refine ⟨rfl, ?_⟩
          rw [Bag.reason?_ofList]
          rintro e ⟨⟩
        · exact ((settles_iff.1 htexts).2 e (Bag.readFound_eq_error_iff.1 he)).noMismatchBut

/-- The leaves that ask the request: designators that no other provider answers, and selectors. -/
def Leaf.OfRequest : Leaf → Prop
  | .designator d => d.provider = .request
  | .selector _ => True
  | .supplied _ => False

theorem Leaf.OfRequest.answer_settles (hctx : ∀ c ∈ ctx, c.Typed) {l : Leaf} (h : l.OfRequest) :
    Settles (·.HasType l.datatype) (Failure.NoMismatchBut (l.HandsOn ctx)) (l.answer ctx) := by
  cases l with
  | designator d => exact (Designator.answer_settles hctx h).map fun _ => congrArg Datatype.bag
  | selector s => exact (Selector.answer_settles s).map fun _ => congrArg Datatype.bag
  | supplied s => exact h.elim

end Answers

end Xacml
