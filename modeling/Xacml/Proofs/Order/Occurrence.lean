/-
The order in which a tree evaluates its leaves: from left to right, each occurrence at most once. A
leaf may occur in several places, so the occurrences are told apart by marks. A numbered tree has in
every place a leaf that answers like the one there but is marked with its place; it is evaluated
like the tree itself, and its events show the places. Likewise the operands of a call are watched:
each notes its position when it is evaluated.
-/
import Xacml.Proofs.Expr.Leaves
import Xacml.Proofs.Order.Turn
import Xacml.Evaluation.Expr

namespace Xacml

open Eval
open scoped List

/-! ## Marks -/

namespace Leaf

/-- A leaf that is marked with its place: the label has so many strokes. -/
def mark (place : Nat) (datatype : Datatype) (answer : Option Context → Except Failure Value) :
    Leaf := .supplied ⟨String.ofList (List.replicate place '|'), datatype, answer⟩

/-- The place of a marked leaf. -/
def place : Leaf → Nat
  | supplied s => s.label.length
  | designator _ | selector _ => 0

@[simp] theorem place_mark (i : Nat) (d : Datatype) (answer : Option Context → Except Failure Value) :
    (mark i d answer).place = i := by
  simp [mark, place]

/-- The leaf with a mark in its place. -/
def numbered (i : Nat) (l : Leaf) : Leaf := mark i l.datatype l.answer

end Leaf

/-- The places of the marked leaves that were evaluated, in order. -/
def Outcome.places {α : Type} (o : Outcome α) : List Nat := o.visited.map Leaf.place

/-- The event with the leaf that belongs in the place of a marked one. -/
def Event.unmark (leaves : List Leaf) : Event → Event
  | .leaf l => .leaf (leaves.getD l.place l)
  | e => e

/-- The outcome with the leaves that belong in the places of marked ones. -/
def Outcome.unmark {α : Type} (leaves : List Leaf) (o : Outcome α) : Outcome α :=
  { o with events := o.events.map (Event.unmark leaves) }

attribute [ext] Outcome

namespace Expr

variable {ctx : Option Context}

/-! ## Leaves that are evaluated -/

theorem visited_leaf (l : Leaf) (c : Pattern.Cache) : (l.eval ctx c).visited = [l] := rfl

/-- Arguments that take turns evaluate some of their leaves, in order. -/
theorem inTurn_sublist {es : List Expr} (h : ∀ e ∈ es, ∀ c, (e.eval ctx c).visited <+ e.leaves)
    {leaves : List Leaf} (hturn : InTurn (asked (es.map (operand ctx))) leaves) :
    leaves <+ leavesOfAll es := by
  induction es generalizing leaves with
  | nil =>
    cases inTurn_nil.1 hturn
    exact List.nil_sublist _
  | cons e rest ih =>
    rw [List.forall_mem_cons] at h
    rw [leavesOfAll_cons]
    rw [List.map_cons] at hturn
    cases hv : e.value? with
    | some v =>
      rw [asked_cons_known (x := e.operand ctx) (Option.isSome_iff_exists.2 ⟨v, hv⟩)] at hturn
      exact (ih h.2 hturn).trans (List.sublist_append_right _ _)
    | none =>
      rw [asked_cons_unknown (x := e.operand ctx) hv] at hturn
      cases hturn with
      | stop => exact List.nil_sublist _
      | next _ c hturn => exact (h.1 c).append (ih h.2 hturn)

/-- The leaves that an evaluation goes to are among those of the tree, in order. -/
theorem visited_sublist_leaves (e : Expr) (c : Pattern.Cache) :
    (e.eval ctx c).visited <+ e.leaves := by
  induction e using Expr.induction generalizing c with
  | constant v =>
    rw [eval]
    exact List.nil_sublist _
  | leaf l =>
    rw [eval, leaves, visited_leaf]
  | reference _ _ _ ih =>
    rw [eval, leaves]
    exact ih c
  | apply f arguments ih =>
    -- an argument whose value is known has no leaves, and so has no turn
    have hquiet : KnownQuiet (arguments.map (operand ctx)) := by
      rw [KnownQuiet, List.forall_mem_map]
      intro e he hknown
      obtain ⟨v, hv⟩ := Option.isSome_iff_exists.1 hknown
      refine quiet_iff.2 fun c => List.sublist_nil.1 ?_
      have hsublist := ih e he c
      rwa [leaves_of_value? hv] at hsublist
    rw [eval_apply, leaves]
    exact inTurn_sublist ih (Callable.run_within hquiet [] [] c)

/-! ## Numbered trees -/

mutual

/-- The tree with marks in the places of its leaves, from left to right and from `i` on. -/
def numberedFrom (i : Nat) (e : Expr) : Expr :=
  match e with
  | constant v => constant v
  | leaf l => leaf (l.numbered i)
  | reference id definition chain => reference id (numberedFrom i definition) chain
  | apply f arguments => apply f (numberedAllFrom i arguments)
termination_by structural e

def numberedAllFrom (i : Nat) (es : List Expr) : List Expr :=
  match es with
  | [] => []
  | e :: rest => numberedFrom i e :: numberedAllFrom (i + e.leaves.length) rest
termination_by structural es

end

def numbered (e : Expr) : Expr := numberedFrom 0 e

theorem value?_numberedFrom (i : Nat) (e : Expr) : (e.numberedFrom i).value? = e.value? := by
  induction e using Expr.induction with
  | constant _ => rw [numberedFrom]
  | leaf _ | apply _ _ _ => rw [numberedFrom]; rfl
  | reference _ _ _ ih => rw [numberedFrom, value?, value?, ih]

theorem static_numberedFrom (i : Nat) (e : Expr) : (e.numberedFrom i).static = e.static := by
  have hdatatype : (e.numberedFrom i).datatype = e.datatype := by
    induction e using Expr.induction with
    | constant _ => rw [numberedFrom]
    | leaf _ => rw [numberedFrom, datatype, datatype, Leaf.numbered, Leaf.mark, Leaf.datatype]
    | reference _ _ _ ih => rw [numberedFrom, datatype, datatype, ih]
    | apply f arguments _ =>
      rw [numberedFrom, datatype, datatype]
      cases arguments with
      | nil => rw [numberedAllFrom]
      | cons e rest =>
        rw [numberedAllFrom, List.head?_cons, List.head?_cons, Option.bind_some, Option.bind_some,
          value?_numberedFrom]
  rw [static, static, hdatatype, value?_numberedFrom]

/-- The marks count the places. -/
theorem places_numberedFrom (i : Nat) (e : Expr) :
    (e.numberedFrom i).leaves.map Leaf.place = List.range' i e.leaves.length := by
  induction e using Expr.induction generalizing i with
  | constant _ => rw [numberedFrom, leaves]; rfl
  | leaf l =>
    rw [numberedFrom, leaves, leaves, List.map_singleton, Leaf.numbered, Leaf.place_mark]
    rfl
  | reference _ _ _ ih => rw [numberedFrom, leaves, leaves, ih]
  | apply f arguments ih =>
    rw [numberedFrom, leaves, leaves]
    induction arguments generalizing i with
    | nil => rw [numberedAllFrom]; rfl
    | cons e rest ihrest =>
      rw [List.forall_mem_cons] at ih
      rw [numberedAllFrom, leavesOfAll_cons, leavesOfAll_cons, List.map_append, List.length_append,
        ih.1, ihrest ih.2, List.range'_append_1]

end Expr

/-- One run is that of a tree with marks, in which `leaves` belong. -/
def Likeness.marked (leaves : List Leaf) : Likeness where
  caches := Eq
  logs l l' := l = l'.map (Event.unmark leaves)
  request _ h := by
    cases h
    exact ⟨rfl, rfl⟩
  nil := List.map_nil.symm
  append h h' := by rw [List.map_append, ← h, ← h']
  own := by
    rintro (l | _ | _) h
    · cases h
    · rfl
    · rfl

namespace Expr

variable {ctx : Option Context}

theorem leaf_alike_marked {leaves : List Leaf} {i : Nat} {l : Leaf} (h : [l] <+: leaves.drop i) :
    (Likeness.marked leaves).Alike (l.eval ctx) ((l.numbered i).eval ctx) := by
  obtain ⟨rest, hrest⟩ := h
  have hl : leaves[i]? = some l := by
    have := congrArg List.head? hrest
    rwa [List.head?_drop, eq_comm] at this
  refine Likeness.Alike.bind (fun c c' hc => ⟨rfl, hc, ?_⟩) fun _ => Likeness.alike_done _ _
  change [Event.leaf l] = [Event.leaf (leaves.getD (l.numbered i).place (l.numbered i))]
  rw [Leaf.numbered, Leaf.place_mark, List.getD_eq_getElem?_getD, hl, Option.getD_some]

/-- A tree is evaluated like the numbered one. -/
theorem alike_numberedFrom {leaves : List Leaf} {i : Nat} {e : Expr}
    (h : e.leaves <+: leaves.drop i) :
    (Likeness.marked leaves).Alike (e.eval ctx) ((e.numberedFrom i).eval ctx) := by
  induction e using Expr.induction generalizing i with
  | constant v =>
    rw [numberedFrom, eval]
    exact Likeness.alike_ok _ v
  | leaf l =>
    rw [Expr.leaves] at h
    rw [numberedFrom, eval, eval]
    exact leaf_alike_marked h
  | reference _ _ _ ih =>
    rw [Expr.leaves] at h
    rw [numberedFrom, eval, eval]
    exact ih h
  | apply f arguments ih =>
    rw [Expr.leaves] at h
    rw [numberedFrom, eval_apply, eval_apply]
    refine Likeness.alike_run ?_ [] []
    induction arguments generalizing i with
    | nil =>
      rw [numberedAllFrom]
      exact .nil
    | cons e rest ihrest =>
      rw [List.forall_mem_cons] at ih
      obtain ⟨more, hmore⟩ := h
      rw [leavesOfAll_cons, List.append_assoc] at hmore
      have hrest : leavesOfAll rest <+: leaves.drop (i + e.leaves.length) := by
        rw [← List.drop_drop, ← hmore, List.drop_left]
        exact List.prefix_append _ _
      rw [numberedAllFrom, List.map_cons, List.map_cons]
      refine .cons ⟨(static_numberedFrom i e).symm, ih.1 ⟨_, hmore⟩⟩ (ihrest ih.2 hrest)

theorem eval_numbered (e : Expr) (c : Pattern.Cache) :
    e.eval ctx c = (e.numbered.eval ctx c).unmark e.leaves := by
  have halike : (Likeness.marked e.leaves).Alike (e.eval ctx) (e.numbered.eval ctx) :=
    alike_numberedFrom (List.prefix_refl _)
  obtain ⟨hresult, hcache, hevents⟩ := halike c c rfl
  exact Outcome.ext hresult hcache hevents

theorem places_sublist (e : Expr) (c : Pattern.Cache) :
    (e.numbered.eval ctx c).places <+ List.range e.leaves.length := by
  have hvisited : (e.numbered.eval ctx c).visited <+ e.numbered.leaves :=
    visited_sublist_leaves e.numbered c
  have h := hvisited.map Leaf.place
  rwa [numbered, places_numberedFrom, ← List.range_eq_range'] at h

end Expr

/-! ## Watched calls -/

/-- The evaluation without its events. -/
def Eval.silenced {α : Type} (x : Eval α) : Eval α := fun c => { x c with events := [] }

theorem Eval.silenced_quiet {α : Type} (x : Eval α) : x.silenced.Quiet := quiet_iff.2 fun _ => rfl

namespace Operand

/-- An operand of whose evaluation only the position is noted, and this only if its value is not
known. -/
def watched (position : Nat) (x : Operand) : Operand where
  toStatic := x.toStatic
  eval :=
    if x.value?.isSome then x.eval.silenced
    else Eval.note (.leaf (.mark position x.datatype fun _ => .ok default)) >>= fun _ =>
      x.eval.silenced

def watchedFrom (i : Nat) : List Operand → List Operand
  | [] => []
  | x :: rest => x.watched i :: watchedFrom (i + 1) rest

/-- The positions of the operands whose value is not known. -/
def unknownFrom (i : Nat) : List Operand → List Nat
  | [] => []
  | x :: rest => if x.value?.isSome then unknownFrom (i + 1) rest else i :: unknownFrom (i + 1) rest

theorem eval_watched_known {i : Nat} {x : Operand} (h : x.value?.isSome = true) :
    (x.watched i).eval = x.eval.silenced := if_pos h

theorem eval_watched_unknown {i : Nat} {x : Operand} (h : x.value? = none) :
    (x.watched i).eval = Eval.note (.leaf (.mark i x.datatype fun _ => .ok default)) >>= fun _ =>
      x.eval.silenced := if_neg (by rw [h]; decide)

theorem watchedFrom_knownQuiet (i : Nat) (operands : List Operand) :
    KnownQuiet (watchedFrom i operands) := by
  induction operands generalizing i with
  | nil => exact List.forall_mem_nil _
  | cons x rest ih =>
    refine List.forall_mem_cons.2 ⟨fun hknown => ?_, ih (i + 1)⟩
    rw [eval_watched_known (x := x) hknown]
    exact silenced_quiet _

/-- Watched operands that take turns note the first of the positions. -/
theorem inTurn_places {i : Nat} {operands : List Operand} {leaves : List Leaf}
    (h : InTurn (asked (watchedFrom i operands)) leaves) :
    leaves.map Leaf.place <+: unknownFrom i operands := by
  induction operands generalizing i leaves with
  | nil =>
    cases inTurn_nil.1 h
    exact List.prefix_refl _
  | cons x rest ih =>
    rw [watchedFrom] at h
    rw [unknownFrom]
    cases hv : x.value? with
    | some v =>
      rw [asked_cons_known (x := x.watched i) (Option.isSome_iff_exists.2 ⟨v, hv⟩)] at h
      exact ih h
    | none =>
      rw [asked_cons_unknown (x := x.watched i) hv] at h
      cases h with
      | stop => exact List.nil_prefix
      | @next _ c _ leaves h =>
        have hnoted : ((x.watched i).eval c).visited.map Leaf.place = [i] := by
          rw [eval_watched_unknown hv]
          exact congrArg (fun i => [i]) (Leaf.place_mark i _ _)
        rw [List.map_append, hnoted]
        exact (List.prefix_append_right_inj [i]).2 (ih h)

end Operand

/-- The runs have the same answer and leave the same store. -/
def Likeness.sameAnswer : Likeness where
  caches := Eq
  logs _ _ := True
  request _ h := by
    cases h
    exact ⟨rfl, rfl⟩
  nil := trivial
  append _ _ := trivial
  own _ := trivial

namespace Operand

theorem watched_alike (i : Nat) (x : Operand) : Likeness.sameAnswer.AlikeOperand x (x.watched i) where
  static := rfl
  eval := by
    rintro c _ rfl
    cases hv : x.value? with
    | some v =>
      rw [eval_watched_known (Option.isSome_iff_exists.2 ⟨v, hv⟩)]
      exact ⟨rfl, rfl, trivial⟩
    | none =>
      rw [eval_watched_unknown hv]
      exact ⟨rfl, rfl, trivial⟩

theorem watchedFrom_alike (i : Nat) (operands : List Operand) :
    List.Forall₂ Likeness.sameAnswer.AlikeOperand operands (watchedFrom i operands) := by
  induction operands generalizing i with
  | nil => exact .nil
  | cons x rest ih => exact .cons (watched_alike i x) (ih (i + 1))

end Operand

/-! ## Order -/

/-- The evaluation of a tree goes through the places of its leaves from left to right, to each at
most once: this is what the numbered tree shows, which is evaluated alike. A call evaluates its
operands in order and once each, leaving out only constants and what comes after the last. -/
theorem evaluation_in_order (ctx : Option Context) (c : Pattern.Cache) :
    (∀ e : Expr, (e.numbered.eval ctx c).places <+ List.range e.leaves.length ∧
      e.eval ctx c = (e.numbered.eval ctx c).unmark e.leaves) ∧
    ∀ (f : Function) (operands : List Operand) (types : List AttributeType)
      (given : List AttributeValue),
      (f.run (Operand.watchedFrom 0 operands) types given c).places <+:
        Operand.unknownFrom 0 operands ∧
      (f.run operands types given c).result =
        (f.run (Operand.watchedFrom 0 operands) types given c).result ∧
      (f.run operands types given c).cache =
        (f.run (Operand.watchedFrom 0 operands) types given c).cache := by
  refine ⟨fun e => ⟨e.places_sublist c, e.eval_numbered c⟩, fun f operands types given => ⟨?_, ?_⟩⟩
  · exact Operand.inTurn_places
      (Callable.run_within (Operand.watchedFrom_knownQuiet 0 operands) types given c)
  · obtain ⟨hresult, hcache, -⟩ :=
      Likeness.alike_run (Operand.watchedFrom_alike 0 operands) types given c c rfl
    exact ⟨hresult, hcache⟩

/-- A leaf that occurs twice in a call for every element of a bag of two: each occurrence has its
turn, once. -/
example :
    let bag : Expr := .constant (.bag (.ofList .boolean [.boolean true, .boolean true] (by decide)))
    let l : Leaf := .supplied ⟨"x", .boolean, fun _ => .ok (.ofBool true)⟩
    let f : Expr := .constant (.function (.firstOrder (Library.connective .and "and" [.boolean])))
    ((Expr.apply (.combinator .allOf) [f, .leaf l, bag, .leaf l]).numbered.eval none
      (.empty 0)).places = [0, 1] := rfl

end Xacml
