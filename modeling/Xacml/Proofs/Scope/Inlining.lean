/-
Variables are transparent. A draft is an expression that is yet to be built; references in it, and in
what has been built before, may be replaced by the definitions that they hold, some of them or all,
and so may references in those definitions. Main statement: the draft in which they are replaced is
built just if the other is, or refused for the same reason, and then has the same datatype, the same
known value and the same evaluation, whatever the context and the store of patterns.
-/
import Xacml.Evaluation.Expr
import Xacml.Proofs.Expr.Leaves
import Xacml.Proofs.Scope.Session
import Mathlib.Data.List.Forall2

namespace Xacml

/-! ## Expressions in place of one another -/

namespace Expr

/-- Nothing tells the expressions apart that looks at their datatypes, their known values and their
evaluations. -/
structure Interchangeable (e e' : Expr) : Prop where
  datatype : e'.datatype = e.datatype
  value : e'.value? = e.value?
  eval : ∀ ctx, e'.eval ctx = e.eval ctx

namespace Interchangeable

variable {e e' : Expr} {es es' : List Expr}

theorem refl (e : Expr) : e.Interchangeable e := ⟨rfl, rfl, fun _ => rfl⟩

theorem static_eq (h : e.Interchangeable e') : e'.static = e.static := by
  unfold static
  rw [h.datatype, h.value]

theorem operand_eq (h : e.Interchangeable e') (ctx : Option Context) :
    e'.operand ctx = e.operand ctx := by
  unfold operand
  rw [h.static_eq, h.eval]

theorem map_eq {α : Type} {f : Expr → α} (hf : ∀ e e' : Expr, e.Interchangeable e' → f e' = f e)
    (h : List.Forall₂ Interchangeable es es') : es'.map f = es.map f := by
  induction h with
  | nil => rfl
  | cons he _ ih => rw [List.map_cons, List.map_cons, hf _ _ he, ih]

/-- A reference can be told from nothing that its definition cannot be told from. -/
theorem reference (id : String) (chain : Nat) (h : e.Interchangeable e') :
    (Expr.reference id e chain).Interchangeable e' where
  datatype := h.datatype
  value := h.value
  eval ctx := by rw [h.eval, Expr.eval]

theorem apply (f : Function) (h : List.Forall₂ Interchangeable es es') :
    (Expr.apply f es).Interchangeable (.apply f es') where
  datatype := by
    have hfirst : es'.head?.bind value? = es.head?.bind value? := by
      cases h with
      | nil => rfl
      | cons he _ => exact he.value
    unfold Expr.datatype
    rw [hfirst]
  value := rfl
  eval ctx := by
    rw [eval_apply, eval_apply, map_eq (fun _ _ he => he.operand_eq ctx) h]

end Interchangeable

end Expr

/-! ## Drafts -/

/-- An expression that is yet to be built: what a factory has answered when it was asked for a part,
or a function by its identifier, with arguments. -/
inductive Draft where
  | given (answer : Except BuildError Expr)
  | apply (id : String) (arguments : List Draft)

namespace Draft

/-- A part that has been built. -/
def part (e : Expr) : Draft := given (.ok e)

/-- The parts of a draft that have been built satisfy `P`. -/
inductive Over (P : Expr → Prop) : Draft → Prop
  | given {answer : Except BuildError Expr} : (∀ e, answer = .ok e → P e) → Over P (given answer)
  | apply {id : String} {arguments : List Draft} : (∀ d ∈ arguments, Over P d) →
      Over P (apply id arguments)

theorem Over.imp {P Q : Expr → Prop} {d : Draft} (h : d.Over P) (hPQ : ∀ e, P e → Q e) :
    d.Over Q := by
  induction h with
  | given hanswer => exact .given fun e he => hPQ e (hanswer e he)
  | apply _ ih => exact .apply ih

/-- References in the first draft are replaced by their definitions in the second. -/
inductive Inlines : Draft → Draft → Prop
  | keep (d : Draft) : Inlines d d
  /-- A reference is replaced by its definition, in which more may be replaced. -/
  | reference {id : String} {definition : Expr} {chain : Nat} {t : Draft} :
      Inlines (part definition) t → Inlines (part (.reference id definition chain)) t
  /-- An application that has been built is opened, since references in it are replaced. -/
  | opened {f : Function} {arguments : List Expr} {ts : List Draft} :
      List.Forall₂ Inlines (arguments.map part) ts → Inlines (part (.apply f arguments)) (apply f.id ts)
  | apply {id : String} {ds ts : List Draft} :
      List.Forall₂ Inlines ds ts → Inlines (apply id ds) (apply id ts)

/-- Induction on the replacements, with the hypothesis for every argument of an application. -/
theorem Inlines.induction {P : Draft → Draft → Prop} (keep : ∀ d, P d d)
    (reference : ∀ id definition chain t, P (part definition) t →
      P (part (.reference id definition chain)) t)
    (opened : ∀ f arguments ts, List.Forall₂ P (arguments.map part) ts →
      P (part (.apply f arguments)) (.apply f.id ts))
    (apply : ∀ id ds ts, List.Forall₂ P ds ts → P (.apply id ds) (.apply id ts)) {d t : Draft}
    (h : Inlines d t) : P d t :=
  @Inlines.rec (fun d t _ => P d t) (fun ds ts _ => List.Forall₂ P ds ts) keep
    (fun _ ih => reference _ _ _ _ ih) (fun _ ih => opened _ _ _ ih) (fun _ ih => apply _ _ _ ih)
    .nil (fun _ _ hd hds => .cons hd hds) d t h

end Draft

/-! ## Building -/

/-- Two attempts fail for the same reason, or succeed with related results. -/
inductive AnswerAlike {α : Type} (R : α → α → Prop) :
    Except BuildError α → Except BuildError α → Prop
  | error (err : BuildError) : AnswerAlike R (.error err) (.error err)
  | ok {a b : α} : R a b → AnswerAlike R (.ok a) (.ok b)

theorem AnswerAlike.bind {α β : Type} {R : α → α → Prop} {S : β → β → Prop}
    {x y : Except BuildError α} {f g : α → Except BuildError β} (h : AnswerAlike R x y)
    (hfg : ∀ a b, R a b → AnswerAlike S (f a) (g b)) : AnswerAlike S (x >>= f) (y >>= g) := by
  cases h with
  | error err => exact .error err
  | ok hab => exact hfg _ _ hab

namespace Scope

mutual

/-- Builds an expression, its arguments first, from left to right. -/
def build (s : Scope) (d : Draft) : Except BuildError Expr :=
  match d with
  | .given answer => answer
  | .apply id arguments => do
    let es ← buildAll s arguments
    s.apply id es
termination_by structural d

def buildAll (s : Scope) (ds : List Draft) : Except BuildError (List Expr) :=
  match ds with
  | [] => .ok []
  | d :: rest => do
    let e ← build s d
    let es ← buildAll s rest
    return e :: es
termination_by structural ds

end

variable {s : Scope}

theorem build_part (s : Scope) (e : Expr) : s.build (.part e) = .ok e := by
  rw [Draft.part, build]

theorem buildAll_parts (s : Scope) (es : List Expr) : s.buildAll (es.map .part) = .ok es := by
  induction es with
  | nil => rw [List.map_nil, buildAll]
  | cons e rest ih =>
    rw [List.map_cons, buildAll, build_part, ih]
    rfl

/-- The check of an application sees no more of the arguments than what is interchangeable. -/
theorem apply_alike (s : Scope) (id : String) {es es' : List Expr}
    (h : List.Forall₂ Expr.Interchangeable es es') :
    AnswerAlike Expr.Interchangeable (s.apply id es) (s.apply id es') := by
  have hstatic := Expr.Interchangeable.map_eq (fun _ _ he => he.static_eq) h
  unfold apply
  cases s.functions.get id with
  | error err => exact .error err
  | ok f =>
    rw [hstatic]
    show AnswerAlike _ (f.bind (es.map Expr.static) [] >>= _) (f.bind (es.map Expr.static) [] >>= _)
    cases f.bind (es.map Expr.static) [] with
    | error err => exact .error err
    | ok _ => exact .ok (.apply f h)

/-- The drafts are built alike. -/
def BuildsAlike (s : Scope) (d t : Draft) : Prop :=
  AnswerAlike Expr.Interchangeable (s.build d) (s.build t)

theorem buildAll_alike {ds ts : List Draft} (h : List.Forall₂ s.BuildsAlike ds ts) :
    AnswerAlike (List.Forall₂ Expr.Interchangeable) (s.buildAll ds) (s.buildAll ts) := by
  induction h with
  | nil =>
    rw [buildAll]
    exact .ok .nil
  | cons hd _ ih =>
    rw [buildAll, buildAll]
    exact hd.bind fun _ _ he => ih.bind fun _ _ hes => .ok (.cons he hes)

theorem buildsAlike_apply (id : String) {ds ts : List Draft}
    (h : List.Forall₂ s.BuildsAlike ds ts) : s.BuildsAlike (.apply id ds) (.apply id ts) := by
  unfold BuildsAlike
  rw [build, build]
  exact (buildAll_alike h).bind fun _ _ => s.apply_alike id

end Scope

/-! ## What can be built again -/

theorem FunctionTable.id_of_find? {table : FunctionTable} {id : String} {f : Function}
    (h : table.find? id = some f) : f.id = id := by
  unfold find? at h
  simpa using List.find?_some h

/-- Every application passed the check, and its function is the one that its identifier names. -/
inductive Expr.Checked (table : FunctionTable) : Expr → Prop
  | constant (v : Value) : Checked table (.constant v)
  | leaf (l : Leaf) : Checked table (.leaf l)
  | reference {id : String} {definition : Expr} {chain : Nat} : Checked table definition →
      Checked table (.reference id definition chain)
  | apply {f : Function} {arguments : List Expr} : table.find? f.id = some f →
      (∀ e ∈ arguments, Checked table e) → f.bind (arguments.map static) [] = .ok () →
      Checked table (.apply f arguments)

theorem Expr.Checked.imp {table table' : FunctionTable} {e : Expr} (h : e.Checked table)
    (htable : ∀ id f, table.find? id = some f → table'.find? id = some f) : e.Checked table' := by
  induction h with
  | constant v => exact .constant v
  | leaf l => exact .leaf l
  | reference _ ih => exact .reference ih
  | apply hf _ hb ih => exact .apply (htable _ _ hf) ih hb

namespace Scope

variable {s : Scope}

/-- An application that passed the check is built again out of its arguments. -/
theorem build_opened {f : Function} {arguments : List Expr} (hf : s.functions.find? f.id = some f)
    (hb : f.bind (arguments.map Expr.static) [] = .ok ()) :
    s.build (.apply f.id (arguments.map .part)) = .ok (.apply f arguments) := by
  have hget : s.functions.get f.id = .ok f := by
    unfold FunctionTable.get
    rw [hf]
  rw [build, buildAll_parts]
  show s.apply f.id arguments = _
  unfold apply
  rw [hget]
  show (f.bind _ [] >>= _) = _
  rw [hb]
  rfl

/-- Replacing references does not matter to what is built, if the parts can be built again. -/
theorem buildsAlike_of_inlines {d t : Draft} (h : d.Inlines t) :
    d.Over (Expr.Checked s.functions) → s.BuildsAlike d t := by
  refine h.induction (P := fun d t => d.Over (Expr.Checked s.functions) → s.BuildsAlike d t)
    ?keep ?reference ?opened ?apply
  case keep =>
    intro d _
    unfold BuildsAlike
    cases s.build d with
    | error err => exact .error err
    | ok e => exact .ok (.refl e)
  case reference =>
    intro id definition chain t ih hd
    cases hd with
    | given hchecked =>
      cases hchecked _ rfl with
      | reference hdefinition =>
        have halike := ih (.given fun e he => by cases he; exact hdefinition)
        unfold BuildsAlike at halike ⊢
        rw [build_part] at halike ⊢
        generalize s.build t = answer at halike ⊢
        cases halike with
        | ok he => exact .ok (he.reference id chain)
  case opened =>
    intro f arguments ts ih hd
    cases hd with
    | given hchecked =>
      cases hchecked _ rfl with
      | apply hf hall hb =>
        have hparts : ∀ d ∈ arguments.map Draft.part, d.Over (Expr.Checked s.functions) :=
          List.forall_mem_map.2 fun a ha => .given fun e he => by cases he; exact hall a ha
        have halike : s.BuildsAlike (.apply f.id (arguments.map .part)) (.apply f.id ts) :=
          buildsAlike_apply f.id
            (((List.forall₂_and_left _ _).2 ⟨hparts, ih⟩).imp fun _ _ h => h.2 h.1)
        unfold BuildsAlike at halike ⊢
        rwa [build_opened hf hb] at halike
  case apply =>
    intro id ds ts ih hd
    cases hd with
    | apply hds =>
      exact buildsAlike_apply id
        (((List.forall₂_and_left _ _).2 ⟨hds, ih⟩).imp fun _ _ h => h.2 h.1)

end Scope

/-! ## Sessions -/

namespace Session

variable {N : String → Prop} {L : Leaf → Prop} {s s' : Session}

/-- Everything that a session holds can be built again. -/
structure Checked (s : Session) : Prop where
  built : ∀ e ∈ s.built, e.Checked s.scope.functions
  definitions : ∀ v ∈ s.scope.definitions.entries, v.definition.Checked s.scope.functions

theorem Checked.handOut (h : s.Checked) {e : Expr} (he : e.Checked s.scope.functions) :
    (s.handOut e).Checked :=
  ⟨List.forall_mem_cons.2 ⟨he, h.built⟩, h.definitions⟩

theorem Step.checked (h : Step N L s s') (hs : s.Checked) : s'.Checked := by
  cases h with
  | value v => exact hs.handOut (.constant _)
  | bag _ => exact hs.handOut (.constant _)
  | literal _ => exact hs.handOut (.constant _)
  | function _ he =>
    obtain ⟨f, -, rfl⟩ := Scope.function_eq_ok he
    exact hs.handOut (.constant _)
  | leaf _ => exact hs.handOut (.leaf _)
  | selector he =>
    obtain ⟨sel, rfl⟩ := Scope.selector_eq_ok he
    exact hs.handOut (.leaf _)
  | apply _ hargs he =>
    obtain ⟨f, hf, hb, rfl⟩ := Scope.apply_eq_ok he
    cases FunctionTable.id_of_find? hf
    exact hs.handOut (.apply hf (fun a ha => hs.built a (hargs a ha)) hb)
  | reference he =>
    obtain ⟨v, hv, -, rfl⟩ := Scope.reference_eq_ok he
    exact hs.handOut (.reference (hs.definitions v hv))
  | define hd hdefine =>
    cases Scope.define_eq_ok hdefine
    exact ⟨hs.built, List.forall_mem_cons.2 ⟨hs.built _ hd, hs.definitions⟩⟩
  | remove id => exact ⟨hs.built, fun v hv => hs.definitions v (List.mem_filter.1 hv).1⟩
  | @declare f _ hdeclare =>
    -- a function that is declared does not take the place of another
    have hfind : ∀ id g, s.scope.functions.find? id = some g →
        FunctionTable.find? ⟨s.scope.functions.functions ++ [.firstOrder f]⟩ id = some g := by
      intro id g hg
      unfold FunctionTable.find? at hg ⊢
      rw [List.find?_append, hg]
      rfl
    cases Scope.declare_eq_ok hdeclare
    exact ⟨fun e he => (hs.built e he).imp hfind, fun v hv => (hs.definitions v hv).imp hfind⟩
  | evaluate _ _ => exact ⟨hs.built, hs.definitions⟩

theorem Reachable.checked (h : Reachable N L s) : s.Checked := by
  induction h with
  | start _ hscope =>
    obtain ⟨-, hd⟩ := Scope.ofSettings_eq_ok hscope
    refine ⟨List.forall_mem_nil _, ?_⟩
    rw [hd]
    exact List.forall_mem_nil _
  | step _ hstep ih => exact hstep.checked ih

/-- Of a draft over what a factory has handed out, and the draft in which references to variables
are replaced by their definitions, either both are refused for the same reason or both are built, with
the same datatype, the same known value, and in every context, from every store of patterns, the same
evaluation. -/
theorem Reachable.variables_transparent (h : Reachable N L s) {d t : Draft}
    (hd : d.Over (· ∈ s.built)) (hi : d.Inlines t) :
    (∃ err, s.scope.build d = .error err ∧ s.scope.build t = .error err) ∨
    ∃ e e', s.scope.build d = .ok e ∧ s.scope.build t = .ok e' ∧ e'.datatype = e.datatype ∧
      e'.value? = e.value? ∧
      ∀ (ctx : Option Context) (c : Pattern.Cache), e'.eval ctx c = e.eval ctx c := by
  have halike := Scope.buildsAlike_of_inlines hi (hd.imp h.checked.built)
  unfold Scope.BuildsAlike at halike
  generalize s.scope.build d = x at halike
  generalize s.scope.build t = y at halike
  cases halike with
  | error err => exact .inl ⟨err, rfl, rfl⟩
  | @ok e e' he => exact .inr ⟨e, e', rfl, rfl, he.datatype, he.value, fun ctx c => by rw [he.eval]⟩

/-- One of two references is replaced, along a chain of two definitions. -/
theorem variables_transparent_chain :
    ∃ (s : Session) (d t : Draft) (e e' : Expr), Reachable (fun _ => True) (fun _ => True) s ∧
      d.Over (· ∈ s.built) ∧ d.Inlines t ∧ s.scope.build d = .ok e ∧ s.scope.build t = .ok e' ∧
      e.references = [("y", 1), ("x", 0)] ∧ e'.references = [("x", 0)] ∧
      ∀ (ctx : Option Context) (c : Pattern.Cache), e'.eval ctx c = e.eval ctx c := by
  let a : Expr := .constant (.single (.string "a"))
  let x : Variable := ⟨"x", a, 0⟩
  let y : Variable := ⟨"y", x.reference, 1⟩
  let f : Function := .firstOrder (Library.equal .string)
  let scope (entries : List Variable) : Scope :=
    ⟨.standard, ⟨Library.standard⟩, ⟨none, entries⟩, .empty 64, none⟩
  let s : Session := ⟨scope [y, x], [y.reference, x.reference, a]⟩
  have hs : Reachable (fun _ => True) (fun _ => True) s := by
    have hscope : Scope.ofSettings .standard = .ok (scope []) := rfl
    have hx : (scope []).define "x" a = .ok (scope [x]) := rfl
    have hrefx : (scope [x]).reference "x" = .ok x.reference := rfl
    have hy : (scope [x]).define "y" x.reference = .ok (scope [y, x]) := rfl
    have hrefy : (scope [y, x]).reference "y" = .ok y.reference := rfl
    exact .step (.step (.step (.step (.step (.start none hscope) (.value _))
      (.define List.mem_cons_self hx)) (.reference hrefx)) (.define List.mem_cons_self hy))
      (.reference hrefy)
  have hbuild (es : List Expr) (hb : f.bind (es.map Expr.static) [] = .ok ()) :
      s.scope.build (.apply f.id (es.map .part)) = .ok (.apply f es) := by
    have hfind : s.scope.functions.find? f.id = some f :=
      List.find?_cons_of_pos (beq_self_eq_true f.id)
    exact Scope.build_opened hfind hb
  have hd : (Draft.apply f.id [.part y.reference, .part x.reference]).Over (· ∈ s.built) := by
    refine .apply (List.forall_mem_cons.2 ⟨.given ?_, List.forall_mem_singleton.2 (.given ?_)⟩)
    · rintro _ ⟨⟩
      exact List.mem_cons_self
    · rintro _ ⟨⟩
      exact List.mem_cons_of_mem _ List.mem_cons_self
  have hi : (Draft.apply f.id [.part y.reference, .part x.reference]).Inlines
      (.apply f.id [.part a, .part x.reference]) :=
    .apply (.cons (.reference (.reference (.keep _))) (.cons (.keep _) .nil))
  have hbuilt := hbuild [y.reference, x.reference] rfl
  have hbuilt' := hbuild [a, x.reference] rfl
  refine ⟨s, _, _, _, _, hs, hd, hi, hbuilt, hbuilt', rfl, rfl, ?_⟩
  rcases hs.variables_transparent hd hi with ⟨err, herr, -⟩ | ⟨e, e', he, he', -, -, heval⟩
  · cases hbuilt.symm.trans herr
  · cases hbuilt.symm.trans he
    cases hbuilt'.symm.trans he'
    exact heval

end Session

end Xacml
