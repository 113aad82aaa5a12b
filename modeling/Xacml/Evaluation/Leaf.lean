/-
The answers of leaves. Attributes and content are asked for in a context; without one there is no
answer. A leaf that must be present turns an empty bag into a failure and hands the bag's reason on
as the cause.
-/
import Xacml.Evaluation.Basic

namespace Xacml

/-- Refuses an empty bag if a value must be present. -/
def requirePresent (mustBePresent : Bool) (label : String) (b : Bag) : Except Failure Bag :=
  if mustBePresent && b.isEmpty then
    .error (match b.reason? with
      | some reason => .causedBy (.absent label) reason
      | none => .of (.absent label))
  else .ok b

namespace Designator

/-- The answer of the provider. An attribute that is not in the request is an empty bag. -/
def provided (d : Designator) (ctx : Context) : Except Failure (Option AttributeBag) :=
  match d.provider with
  | .other answer => answer ctx
  | .request =>
    (ctx.attributeBag d.name d.type).map fun found =>
      some (found.getD (.empty d.type (some (.of (.notInRequest d.name.text)))))

def answer (d : Designator) (ctx : Option Context) : Except Failure Bag := do
  let ctx ← match ctx with
    | some c => .ok c
    | none => .error (.of (.noContext d.label))
  let found ← (d.provided ctx).mapError (.wrap (.resolution d.label))
  let bag ← match found with
    | some b => .ok b.bag
    | none => .error (.of (.unknownReason d.label))
  if bag.element = d.type then requirePresent d.mustBePresent d.label bag
  else .error (.of (.providerType d.label bag.element))

end Designator

/-! ## Reading what was found -/

/-- Reads a value that was found during evaluation. -/
def AttributeValue.readFound (t : AttributeType) (text : String) : Except Failure AttributeValue :=
  (AttributeValue.read t text).mapError fun fault => .of (.literal t text fault)

theorem AttributeValue.type_of_readFound {t : AttributeType} {text : String} {v : AttributeValue}
    (h : readFound t text = .ok v) : v.type = t := by
  unfold readFound at h
  cases hread : read t text with
  | error fault => rw [hread] at h; cases h
  | ok w => rw [hread] at h; cases h; exact type_of_read hread

theorem AttributeValue.types_of_readFound {t : AttributeType} {texts : List String} :
    ∀ {values : List AttributeValue}, texts.mapM (readFound t) = .ok values →
      ∀ v ∈ values, v.type = t := by
  induction texts with
  | nil => rintro _ ⟨⟩; exact List.forall_mem_nil _
  | cons text rest ih =>
    intro values h
    rw [List.mapM_cons] at h
    cases hfirst : readFound t text with
    | error e => rw [hfirst] at h; cases h
    | ok v =>
      cases hrest : rest.mapM (readFound t) with
      | error e => rw [hfirst, hrest] at h; cases h
      | ok others =>
        rw [hfirst, hrest] at h
        cases h
        exact List.forall_mem_cons.2 ⟨type_of_readFound hfirst, ih hrest⟩

/-- Reads the values that were found during evaluation; the first that cannot be read fails. -/
def Bag.readFound (t : AttributeType) (texts : List String) : Except Failure Bag :=
  match h : texts.mapM (AttributeValue.readFound t) with
  | .ok values => .ok (ofList t values (AttributeValue.types_of_readFound h))
  | .error e => .error e

section ReadFound

variable {t : AttributeType} {texts : List String}

theorem Bag.readFound_eq_ok {b : Bag} (h : readFound t texts = .ok b) :
    ∃ values hvalues, b = ofList t values hvalues := by
  unfold readFound at h
  split at h <;> cases h
  exact ⟨_, _, rfl⟩

theorem Bag.readFound_eq_error_iff {e : Failure} :
    readFound t texts = .error e ↔ texts.mapM (AttributeValue.readFound t) = .error e := by
  unfold readFound
  split
  · rename_i h
    exact ⟨nofun, fun h' => nomatch h.symm.trans h'⟩
  · rename_i h
    refine ⟨?_, fun h' => ?_⟩
    · rintro ⟨⟩
      exact h
    · cases h.symm.trans h'
      rfl

end ReadFound

/-! ## Selectors -/

namespace Selector

/-- The path to the context of the selection: the one value of the attribute that holds it. -/
def contextPath (s : Selector) (ctx : Context) : Except Failure (Option String) :=
  match s.contextSelector with
  | none => .ok none
  | some id => do
    let name : AttributeName := ⟨s.category, id, none⟩
    let missing : Failure := .of (.noContextPath s.label name.text)
    match ← ctx.attributeBag name .string with
    | none => .error missing
    | some found =>
      match ← found.bag.single? with
      | some (.string path) => .ok (some path)
      | _ => .error missing

/-- The selected values; a category without content has none. -/
def selected (s : Selector) (ctx : Context) : Except Failure Bag :=
  match ctx.content s.category with
  | none => .ok (.emptyBecause s.type (.of (.noContent s.category)))
  | some content => do
    let path ← s.contextPath ctx
    let texts ← (s.path.select content path).mapError (.causedBy (.selection s.label))
    Bag.readFound s.type texts

def answer (s : Selector) (ctx : Option Context) : Except Failure Bag := do
  let ctx ← match ctx with
    | some c => .ok c
    | none => .error (.of (.noContext s.label))
  let bag ← s.selected ctx
  requirePresent s.mustBePresent s.label bag

end Selector

namespace Leaf

def answer (l : Leaf) (ctx : Option Context) : Except Failure Value :=
  match l with
  | designator d => (d.answer ctx).map .bag
  | selector s => (s.answer ctx).map .bag
  | supplied s => s.answer ctx

def eval (l : Leaf) (ctx : Option Context) : Eval Value := do
  Eval.note (.leaf l)
  Eval.done (l.answer ctx)

end Leaf

end Xacml
