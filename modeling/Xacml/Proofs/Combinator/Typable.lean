/-
Which calls of a combinator can be built. What the check does depends on the arguments: those that are
bound to the function are set apart from those whose values come later, and the function makes its own
checks of both. None of this shows in the result. Main statement: over the standard functions a call can
be built just if it is typable, which is said of the list of arguments as a whole, and it is declared to
answer with a boolean, or for `map` with a bag of what the function answers with.
-/
import Xacml.Proofs.Combinator.Delay
import Xacml.Proofs.Expr.Leaves

namespace Xacml

/-- The type of what each call of the function gets of an argument: of a bag, an element. -/
def Datatype.perCall : Datatype → Datatype
  | bag t => value t
  | d => d

/-- A function that keeps to its declaration can be called. -/
theorem FirstOrder.WellTyped.admits_nothing {g : FirstOrderFunction} (h : g.WellTyped) :
    g.body.Admits [] := by
  cases h with
  | kernel hbody => rw [hbody]; trivial
  | junction hbody => rw [hbody]; trivial
  | counting hbody => rw [hbody]; trivial
  | matching hbody => rw [hbody]; rintro _ ⟨⟩

namespace Combinator

variable {c : Combinator} {g : FirstOrderFunction} {operands : List Expr}

/-! ## Typable calls -/

/-- The number of arguments is right, the function counted. -/
def AdmitsCount (c : Combinator) (count : Nat) : Prop :=
  match c with
  | .allOfAny | .anyOfAll | .allOfAll => count = 3
  | .anyOf | .allOf | .anyOfAny | .map => 2 ≤ count

/-- A constant pattern at the front, which is bound, can be compiled. -/
def AdmitsPattern (c : Combinator) (g : FirstOrderFunction) (operands : List Expr) : Prop :=
  c.IsOneBag → g.body = .matching → ∀ p,
    operands.head?.bind Expr.value? = some (.single (.string p)) → (Pattern.compile? p).isSome = true

/-- The types of a call of a combinator are right; `operands` are the arguments after the function. -/
structure Typable (c : Combinator) (g : FirstOrderFunction) (operands : List Expr) : Prop where
  count : c.AdmitsCount (operands.length + 1)
  returns : c.UsesReturns g.returns
  noFunction : ∀ e ∈ operands, e.datatype ≠ .function
  bags : c.AdmitsBags (operands.map Expr.static)
  accepts : g.signature.Accepts (operands.map fun e => e.datatype.perCall)
  pattern : c.AdmitsPattern g operands

theorem admitsCount_iff {count : Nat} : c.arity.admits count = true ↔ c.AdmitsCount count := by
  cases c <;> simp [arity, Arity.admits, AdmitsCount]

/-! ## The function's own check -/

theorem elements_eq_perCall (h : ∀ e ∈ operands, e.datatype ≠ .function) :
    ((operands.map Expr.static).filterMap Static.element?).map Datatype.value =
      operands.map fun e => e.datatype.perCall := by
  induction operands with
  | nil => rfl
  | cons e rest ih =>
    rw [List.forall_mem_cons] at h
    have hstatic : e.static.datatype = e.datatype := rfl
    rw [List.map_cons, List.filterMap_cons, List.map_cons, ← ih h.2, Static.element?, hstatic]
    cases hd : e.datatype with
    | value t => rfl
    | bag t => rfl
    | function => exact absurd hd h.1

/-- A constant string at the front is bound by the combinators of one bag. -/
theorem constantPattern?_boundPart (hc : c.IsOneBag) {p : String} :
    constantPattern? (c.boundPart (operands.map Expr.static)) = some p ↔
      operands.head?.bind Expr.value? = some (.single (.string p)) := by
  rw [boundPart_of_oneBag hc]
  cases operands with
  | nil => exact iff_of_false nofun nofun
  | cons e rest =>
    constructor
    · exact fun h => Static.head?_of_constantPattern? h
    · intro h
      have hvalue : e.static.value? = some (.single (.string p)) := h
      have hbindable : e.static.isBindable = true := by
        have hdatatype : e.static.datatype = .string := Expr.datatype_of_value? hvalue
        rw [Static.isBindable, hdatatype, hvalue]
        rfl
      rw [List.map_cons, List.takeWhile_cons_of_pos hbindable, constantPattern?, List.head?_cons,
        Option.bind_some, hvalue]

theorem admits_boundPart (hg : g.body.Admits []) :
    g.body.Admits (c.boundPart (operands.map Expr.static)) ↔ c.AdmitsPattern g operands := by
  rw [Body.admits_iff hg, AdmitsPattern]
  by_cases hc : c.IsOneBag
  · simp only [constantPattern?_boundPart hc, forall_prop_of_true hc]
  · rw [boundPart_of_not_oneBag hc]
    exact iff_of_true (fun _ => nofun) fun h => absurd h hc

/-- What the function's own check asks for is that the call is typable. -/
theorem bind_parts_eq_ok (hg : g.WellTyped) (hd : ∀ e ∈ operands, e.datatype ≠ .function) :
    g.bind (c.boundPart (operands.map Expr.static))
        ((c.givenPart (operands.map Expr.static)).filterMap Static.element?) = .ok () ↔
      g.signature.Accepts (operands.map fun e => e.datatype.perCall) ∧
        c.AdmitsPattern g operands := by
  have hstatic : ∀ x ∈ operands.map Expr.static, x.datatype ≠ .function := by
    rw [List.forall_mem_map]
    exact hd
  rw [FirstOrder.bind_eq_ok_iff, admits_boundPart hg.admits_nothing]
  simp only [Signature.check_eq_ok_iff hg.parameters_ne_nil, callTypes_eq hstatic,
    elements_eq_perCall hd, exists_eq_right]

/-! ## Calls -/

/-- The datatype that a call declares. -/
def Declares (c : Combinator) (g : FirstOrderFunction) (d : Datatype) : Prop :=
  match c with
  | .map => ∃ t, g.returns = .value t ∧ d = .bag t
  | _ => d = .boolean

theorem bind_eq_ok_iff_typable {f : Expr} (hf : f.value? = some (.function (.firstOrder g)))
    (hg : g.WellTyped) :
    c.bind ((f :: operands).map Expr.static) = .ok () ↔ c.Typable g operands := by
  have hstatic : (∀ x ∈ operands.map Expr.static, x.datatype ≠ .function) ↔
      ∀ e ∈ operands, e.datatype ≠ .function := List.forall_mem_map
  rw [List.map_cons, bind_eq_ok_iff, List.length_map, admitsCount_iff, hstatic]
  constructor
  · rintro ⟨hcount, g', hg', hreturns, hd, hbags, hbound⟩
    cases hf.symm.trans hg'
    obtain ⟨haccepts, hpattern⟩ := (bind_parts_eq_ok hg hd).1 hbound
    exact ⟨hcount, hreturns, hd, hbags, haccepts, hpattern⟩
  · rintro ⟨hcount, hreturns, hd, hbags, haccepts, hpattern⟩
    exact ⟨hcount, g, hf, hreturns, hd, hbags, (bind_parts_eq_ok hg hd).2 ⟨haccepts, hpattern⟩⟩

theorem Typable.declares (h : c.Typable g operands) {f : Expr}
    (hf : f.value? = some (.function (.firstOrder g))) :
    c.Declares g (Expr.apply (.combinator c) (f :: operands)).datatype := by
  have hreturns := h.returns
  cases c with
  | map =>
    obtain ⟨t, ht⟩ := hreturns
    refine ⟨t, ht, ?_⟩
    rw [Expr.datatype, List.head?_cons, Option.bind_some, hf, Expr.applicationType, ht]
  | _ =>
    rw [Expr.datatype]
    rfl

/-- A call of a combinator over the standard functions can be built just if its first argument is a
constant first-order function and the call is typable; and then it is declared to answer with a
boolean, or for `map` with a bag of what the function answers with. -/
theorem built_iff_typable (c : Combinator) {arguments : List Expr}
    (hstandard : ∀ e ∈ arguments, ∀ g, e.value? = some (.function (.firstOrder g)) →
      g ∈ Library.firstOrder) :
    (c.bind (arguments.map Expr.static) = .ok () ↔ ∃ f operands g, arguments = f :: operands ∧
      f.value? = some (.function (.firstOrder g)) ∧ c.Typable g operands) ∧
    (c.bind (arguments.map Expr.static) = .ok () → ∃ g,
      arguments.head?.bind Expr.value? = some (.function (.firstOrder g)) ∧
      c.Declares g (Expr.apply (.combinator c) arguments).datatype) := by
  have hbuilt : c.bind (arguments.map Expr.static) = .ok () ↔ ∃ f operands g,
      arguments = f :: operands ∧ f.value? = some (.function (.firstOrder g)) ∧
        c.Typable g operands := by
    constructor
    · intro h
      cases arguments with
      | nil => cases c <;> cases h
      | cons f operands =>
        obtain ⟨-, g, hg, -⟩ := bind_eq_ok_iff.1 h
        have hwell := Library.firstOrder_wellTyped (hstandard f List.mem_cons_self g hg)
        exact ⟨f, operands, g, rfl, hg, (bind_eq_ok_iff_typable hg hwell).1 h⟩
    · rintro ⟨f, operands, g, rfl, hg, h⟩
      have hwell := Library.firstOrder_wellTyped (hstandard f List.mem_cons_self g hg)
      exact (bind_eq_ok_iff_typable hg hwell).2 h
  refine ⟨hbuilt, fun h => ?_⟩
  obtain ⟨f, operands, g, rfl, hg, htypable⟩ := hbuilt.1 h
  exact ⟨g, hg, htypable.declares hg⟩

/-- A constant before a bag of strings, with the function that compares two of them. -/
theorem built_iff_typable_equal :
    let arguments : List Expr :=
      [.constant (.function (.firstOrder (Library.equal .string))),
        .constant (.single (.string "b")), .constant (.bag (.empty .string))]
    anyOf.bind (arguments.map Expr.static) = .ok () ∧
      (Expr.apply (.combinator anyOf) arguments).datatype = .boolean := by
  intro arguments
  have hmem : Library.equal .string ∈ Library.firstOrder := by
    simp [Library.firstOrder, Library.comparisons, AttributeType.mem_all]
  have hstandard : ∀ e ∈ arguments, ∀ g, e.value? = some (.function (.firstOrder g)) →
      g ∈ Library.firstOrder := by
    simp only [arguments, List.forall_mem_cons]
    refine ⟨?_, ?_, ?_, List.forall_mem_nil _⟩
    · rintro _ ⟨⟩
      exact hmem
    · rintro _ ⟨⟩
    · rintro _ ⟨⟩
  obtain ⟨hbuilt, hdeclares⟩ := built_iff_typable anyOf hstandard
  have hbind := hbuilt.2 ⟨_, _, _, rfl, rfl, {
    count := Nat.le_succ 2
    returns := rfl
    noFunction := by
      simp only [List.forall_mem_cons]
      exact ⟨by rintro ⟨⟩, by rintro ⟨⟩, List.forall_mem_nil _⟩
    bags := rfl
    accepts := Signature.accepts_fixed.2 rfl
    pattern := by rintro - ⟨⟩ }⟩
  obtain ⟨g, -, hboolean⟩ := hdeclares hbind
  exact ⟨hbind, hboolean⟩

end Combinator

end Xacml
