/-
What a leaf asks of a context. Two contexts show a leaf the same if they answer the lookups that the
leaf makes with the same bags, whatever the sources of these, and hold the same content for the
category that it selects from. Then the leaf answers alike in both.
-/
import Xacml.Evaluation.Leaf
import Xacml.Proofs.Evaluation.Ensures

namespace Xacml

/-- The bag that was found, without its source. -/
def AttributeBag.found (r : Except Failure (Option AttributeBag)) : Except Failure (Option Bag) :=
  r.map (Option.map AttributeBag.bag)

/-- What a context shows of an attribute. -/
def Context.shown (c : Context) (name : AttributeName) (type : AttributeType) :
    Except Failure (Option Bag) :=
  AttributeBag.found (c.attributeBag name type)

/-- Two contexts show a leaf the same. -/
def Leaf.ShownAlike (l : Leaf) (c c' : Context) : Prop :=
  match l with
  | .designator d =>
    match d.provider with
    | .request => c.shown d.name d.type = c'.shown d.name d.type
    | .other answer => AttributeBag.found (answer c) = AttributeBag.found (answer c')
  | .selector s => c.content s.category = c'.content s.category ∧
      ∀ id ∈ s.contextSelector, c.shown ⟨s.category, id, none⟩ .string =
        c'.shown ⟨s.category, id, none⟩ .string
  | .supplied s => s.answer (some c) = s.answer (some c')

/-- There is no context on either side, or there are two that show the leaf the same. -/
def Leaf.SeesAlike (l : Leaf) (ctx ctx' : Option Context) : Prop :=
  Option.Rel l.ShownAlike ctx ctx'

/-- Lookups that find the same bag fail alike, find nothing alike, or find bags that differ in their
sources only. -/
theorem found_cases {r r' : Except Failure (Option AttributeBag)}
    (h : AttributeBag.found r = AttributeBag.found r') :
    (∃ e, r = .error e ∧ r' = .error e) ∨ (r = .ok none ∧ r' = .ok none) ∨
      ∃ b b', r = .ok (some b) ∧ r' = .ok (some b') ∧ b.bag = b'.bag := by
  rcases r with e | (_ | b) <;> rcases r' with e' | (_ | b') <;>
    simp only [AttributeBag.found, Except.map, Except.error.injEq, Except.ok.injEq, Option.map_none,
      Option.map_some, Option.some.injEq, reduceCtorEq] at h
  · exact .inl ⟨e, rfl, by rw [h]⟩
  · exact .inr (.inl ⟨rfl, rfl⟩)
  · exact .inr (.inr ⟨b, b', rfl, rfl, h⟩)

theorem Designator.found_provided {d : Designator} {c c' : Context}
    (h : (Leaf.designator d).ShownAlike c c') :
    AttributeBag.found (d.provided c) = AttributeBag.found (d.provided c') := by
  unfold Leaf.ShownAlike at h
  unfold provided
  cases hp : d.provider with
  | other answer => simpa only [hp] using h
  | request =>
    simp only [hp] at h
    obtain ⟨e, hr, hr'⟩ | ⟨hr, hr'⟩ | ⟨b, b', hr, hr', hb⟩ := found_cases h
    · simp only [hr, hr']
    · simp only [hr, hr']
    · simp only [hr, hr', AttributeBag.found, Except.map, Option.getD_some, Option.map_some, hb]

theorem Designator.answer_eq {d : Designator} {c c' : Context}
    (h : (Leaf.designator d).ShownAlike c c') : d.answer (some c) = d.answer (some c') := by
  unfold answer
  simp only [ok_bind]
  obtain ⟨e, hr, hr'⟩ | ⟨hr, hr'⟩ | ⟨b, b', hr, hr', hb⟩ := found_cases (found_provided h)
  · rw [hr, hr']
  · rw [hr, hr']
  · rw [hr, hr']
    simp only [Eval.mapError_ok, ok_bind, hb]

theorem Selector.contextPath_eq {s : Selector} {c c' : Context}
    (h : ∀ id ∈ s.contextSelector, c.shown ⟨s.category, id, none⟩ .string =
      c'.shown ⟨s.category, id, none⟩ .string) : s.contextPath c = s.contextPath c' := by
  unfold contextPath
  cases hid : s.contextSelector with
  | none => rfl
  | some id =>
    dsimp only
    obtain ⟨e, hr, hr'⟩ | ⟨hr, hr'⟩ | ⟨b, b', hr, hr', hb⟩ := found_cases (h id hid)
    · rw [hr, hr']
    · rw [hr, hr']
    · rw [hr, hr']
      simp only [ok_bind, hb]

theorem Selector.answer_eq {s : Selector} {c c' : Context}
    (h : (Leaf.selector s).ShownAlike c c') : s.answer (some c) = s.answer (some c') := by
  obtain ⟨hcontent, hpath⟩ := h
  unfold answer selected
  simp only [ok_bind]
  rw [hcontent, contextPath_eq hpath]

/-- A leaf that is shown the same answers alike. -/
theorem Leaf.SeesAlike.answer_eq {l : Leaf} {ctx ctx' : Option Context} (h : l.SeesAlike ctx ctx') :
    l.answer ctx = l.answer ctx' := by
  cases h with
  | none => rfl
  | some h =>
    cases l with
    | designator d => exact congrArg (Except.map Value.bag) (Designator.answer_eq h)
    | selector s => exact congrArg (Except.map Value.bag) (Selector.answer_eq h)
    | supplied s => exact h

end Xacml
