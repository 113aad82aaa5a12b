/-
What it takes for a call to be bound. A first-order function is bound if its signature accepts the
types of the operands and of the values that will be given, in one list, and a constant pattern among
the operands is one. The check of a combinator accepts a list of arguments just if their number is
right, the first is a first-order function whose answers the combinator can use, none of the others is
a function, the bags among them are as the combinator wants them, and the function can be bound to what
the combinator will call it with.
-/
import Xacml.Binding

namespace Xacml

theorem bind_eq_ok {ε α β : Type} {x : Except ε α} {f : α → Except ε β} {b : β} :
    (x >>= f) = .ok b ↔ ∃ a, x = .ok a ∧ f a = .ok b := by
  cases x with
  | error e => exact ⟨nofun, by rintro ⟨a, ⟨⟩, -⟩⟩
  | ok a => exact ⟨fun h => ⟨a, rfl, h⟩, by rintro ⟨a, ⟨⟩, h⟩; exact h⟩

theorem check_bind_eq_ok {ε β : Type} {x : Except ε Unit} {f : Unit → Except ε β} {b : β} :
    (x >>= f) = .ok b ↔ x = .ok () ∧ f () = .ok b := by
  rw [bind_eq_ok]
  exact ⟨fun ⟨_, h⟩ => h, fun h => ⟨(), h⟩⟩

/-! ## First-order functions -/

/-- What a body asks of the operands that it is bound to. -/
def Body.Admits (body : Body Value) (operands : List Static) : Prop :=
  match body with
  | .matching => ∀ p, constantPattern? operands = some p → (Pattern.compile? p).isSome = true
  | .declaredOnly => False
  | .kernel _ _ | .connective _ => True

/-- Without operands there is no constant that could be refused. -/
theorem Body.Admits.nothing {body : Body Value} {operands : List Static} (h : body.Admits operands) :
    body.Admits [] := by
  cases body with
  | matching => exact nofun
  | _ => exact h

/-- Only a constant pattern can be refused, if the body can be called at all. -/
theorem Body.admits_iff {body : Body Value} (h : body.Admits []) {operands : List Static} :
    body.Admits operands ↔ (body = .matching → ∀ p, constantPattern? operands = some p →
      (Pattern.compile? p).isSome = true) := by
  cases body with
  | matching => exact ⟨fun h _ => h, fun h => h rfl⟩
  | declaredOnly => exact h.elim
  | _ => exact iff_of_true trivial nofun

namespace FirstOrder

variable {f : FirstOrderFunction} {operands operands' : List Static}
  {remaining remaining' : List AttributeType}

theorem bind_eq_ok_iff : f.bind operands remaining = .ok () ↔
    (∃ types, f.signature.check f.id (operands.map Static.datatype) remaining = .ok types) ∧
      f.body.Admits operands := by
  unfold FirstOrder.bind Body.Admits
  rw [bind_eq_ok]
  constructor
  · rintro ⟨types, hcheck, hbody⟩
    refine ⟨⟨types, hcheck⟩, ?_⟩
    cases hb : f.body with
    | matching =>
      rw [hb] at hbody
      intro p hp
      simp only [hp] at hbody
      split at hbody
      · assumption
      · cases hbody
    | declaredOnly =>
      rw [hb] at hbody
      cases hbody
    | _ => trivial
  · rintro ⟨⟨types, hcheck⟩, hbody⟩
    refine ⟨types, hcheck, ?_⟩
    cases hb : f.body with
    | matching =>
      rw [hb] at hbody
      dsimp only
      split
      · rename_i p hp
        rw [hbody p hp]
        rfl
      · rfl
    | declaredOnly =>
      rw [hb] at hbody
      exact hbody.elim
    | _ => rfl

/-- The check sees the operands and the values to come as one list of types. -/
theorem check_moved (h : operands.map Static.datatype ++ remaining.map .value =
      operands'.map Static.datatype ++ remaining'.map .value) :
    f.signature.check f.id (operands.map Static.datatype) remaining =
      f.signature.check f.id (operands'.map Static.datatype) remaining' := by
  unfold Signature.check
  rw [h]

/-- Operands may be given later instead of being bound, if the body does not mind. -/
theorem bind_moved (hb : f.bind operands remaining = .ok ())
    (h : operands.map Static.datatype ++ remaining.map .value =
      operands'.map Static.datatype ++ remaining'.map .value)
    (hbody : f.body.Admits operands → f.body.Admits operands') :
    f.bind operands' remaining' = .ok () := by
  rw [bind_eq_ok_iff] at hb ⊢
  rw [← check_moved h]
  exact ⟨hb.1, hbody hb.2⟩

/-- Where the types are right, only a constant pattern that denotes none is refused. -/
theorem bind_eq_ok_or (hbody : f.body.Admits [])
    (h : ∃ types, f.signature.check f.id (operands.map Static.datatype) remaining = .ok types) :
    f.bind operands remaining = .ok () ∨
      ∃ p, f.body = .matching ∧ constantPattern? operands = some p ∧ Pattern.compile? p = none ∧
        f.bind operands remaining = .error (.pattern p) := by
  obtain ⟨types, hcheck⟩ := h
  unfold FirstOrder.bind
  rw [hcheck]
  cases hb : f.body with
  | declaredOnly =>
    rw [hb] at hbody
    exact hbody.elim
  | matching =>
    cases hp : constantPattern? operands with
    | none => exact .inl rfl
    | some p =>
      cases hcompile : Pattern.compile? p with
      | some compiled => exact .inl (by dsimp only; rw [hcompile]; rfl)
      | none => exact .inr ⟨p, rfl, rfl, hcompile, by dsimp only; rw [hcompile]; rfl⟩
  | _ => exact .inl rfl

end FirstOrder

/-! ## Combinators -/

namespace Combinator

/-- A function answers with what the combinator can use. -/
def UsesReturns (c : Combinator) (returns : Datatype) : Prop :=
  match c with
  | .map => ∃ t, returns = .value t
  | _ => returns = .boolean

/-- The bags among the arguments are as the combinator wants them. -/
def AdmitsBags (c : Combinator) (operands : List Static) : Prop :=
  match c with
  | .anyOf | .allOf | .map => operands.countP (·.datatype.isBag) = 1
  | .anyOfAny => True
  | .allOfAny | .anyOfAll | .allOfAll => ∀ x ∈ operands, x.datatype.isBag = true

/-- The arguments that the combinator binds to its function. -/
def boundPart (c : Combinator) (operands : List Static) : List Static :=
  match c with
  | .anyOf | .allOf | .map => operands.takeWhile Static.isBindable
  | _ => []

/-- The arguments whose values the combinator gives in each call. -/
def givenPart (c : Combinator) (operands : List Static) : List Static :=
  match c with
  | .anyOf | .allOf | .map => operands.dropWhile Static.isBindable
  | _ => operands

/-- The combinators of one bag, which bind their leading constants. -/
def IsOneBag (c : Combinator) : Prop := c = .anyOf ∨ c = .allOf ∨ c = .map

theorem boundPart_of_oneBag {c : Combinator} {operands : List Static} (hc : c.IsOneBag) :
    c.boundPart operands = operands.takeWhile Static.isBindable := by
  rcases hc with rfl | rfl | rfl <;> rfl

theorem boundPart_of_not_oneBag {c : Combinator} {operands : List Static} (hc : ¬ c.IsOneBag) :
    c.boundPart operands = [] := by
  cases c with
  | anyOf | allOf | map => exact absurd (by simp [IsOneBag]) hc
  | _ => rfl

theorem givenPart_of_oneBag {c : Combinator} {operands : List Static} (hc : c.IsOneBag) :
    c.givenPart operands = operands.dropWhile Static.isBindable := by
  rcases hc with rfl | rfl | rfl <;> rfl

theorem admitsBags_of_oneBag {c : Combinator} {operands : List Static} (hc : c.IsOneBag) :
    c.AdmitsBags operands ↔ operands.countP (·.datatype.isBag) = 1 := by
  rcases hc with rfl | rfl | rfl <;> exact Iff.rfl

theorem checkReturns_eq_ok {c : Combinator} {g : FirstOrderFunction} :
    c.checkReturns g = .ok () ↔ c.UsesReturns g.returns := by
  cases c with
  | map =>
    unfold checkReturns UsesReturns Datatype.type?
    cases g.returns <;> simp
  | _ => simp [checkReturns, UsesReturns]

theorem checkNoFunction_eq_ok {c : Combinator} (index : Nat) {operands : List Static} :
    c.checkNoFunction index operands = .ok () ↔ ∀ x ∈ operands, x.datatype ≠ .function := by
  induction operands generalizing index with
  | nil => simp [checkNoFunction]
  | cons x rest ih =>
    rw [checkNoFunction, List.forall_mem_cons, ← ih (index + 1)]
    by_cases h : x.datatype = .function <;> simp [h]

theorem checkBags_eq_ok {c : Combinator} (index : Nat) {operands : List Static} :
    c.checkBags index operands = .ok () ↔ ∀ x ∈ operands, x.datatype.isBag = true := by
  induction operands generalizing index with
  | nil => simp [checkBags]
  | cons x rest ih =>
    rw [checkBags, List.forall_mem_cons, ← ih (index + 1)]
    by_cases h : x.datatype.isBag = true <;> simp [h]

theorem checkOneBag_eq_ok {c : Combinator} {operands : List Static} :
    c.checkOneBag operands = .ok () ↔ operands.countP (·.datatype.isBag) = 1 := by
  simp [checkOneBag]

theorem applied_eq_ok {c : Combinator} {first : Static} {g : FirstOrderFunction} :
    c.applied first = .ok g ↔ first.value? = some (.function (.firstOrder g)) := by
  unfold applied
  split <;> simp_all

/-- Once all else is right, the check is that of the calls to come. -/
theorem bind_eq_of_checks {c : Combinator} {first : Static} {operands : List Static}
    {g : FirstOrderFunction} (hn : c.arity.admits (operands.length + 1) = true)
    (hg : first.value? = some (.function (.firstOrder g))) (hu : c.UsesReturns g.returns)
    (hd : ∀ x ∈ operands, x.datatype ≠ .function) (hbags : c.AdmitsBags operands) :
    c.bind (first :: operands) =
      g.bind (c.boundPart operands) ((c.givenPart operands).filterMap Static.element?) := by
  unfold Combinator.bind
  rw [List.length_cons, hn]
  dsimp only
  rw [applied_eq_ok.2 hg]
  change (c.checkReturns g >>= _) = _
  rw [checkReturns_eq_ok.2 hu]
  change (c.checkNoFunction 1 operands >>= _) = _
  rw [(checkNoFunction_eq_ok 1).2 hd]
  cases c with
  | anyOf | allOf | map =>
    change (checkOneBag _ operands >>= _) = _
    rw [checkOneBag_eq_ok.2 hbags]
    rfl
  | anyOfAny => rfl
  | allOfAny | anyOfAll | allOfAll =>
    change (checkBags _ 1 operands >>= _) = _
    rw [(checkBags_eq_ok 1).2 hbags]
    rfl

/-- What the check of a call of a combinator accepts. -/
theorem bind_eq_ok_iff {c : Combinator} {first : Static} {operands : List Static} :
    c.bind (first :: operands) = .ok () ↔
      c.arity.admits (operands.length + 1) = true ∧
      ∃ g, first.value? = some (.function (.firstOrder g)) ∧ c.UsesReturns g.returns ∧
        (∀ x ∈ operands, x.datatype ≠ .function) ∧ c.AdmitsBags operands ∧
        g.bind (c.boundPart operands) ((c.givenPart operands).filterMap Static.element?) =
          .ok () := by
  unfold Combinator.bind
  rw [List.length_cons]
  cases c.arity.admits (operands.length + 1) with
  | false => simp
  | true =>
    simp only [true_and]
    rw [bind_eq_ok]
    refine exists_congr fun g => ?_
    rw [applied_eq_ok, check_bind_eq_ok, check_bind_eq_ok, checkReturns_eq_ok, checkNoFunction_eq_ok]
    refine and_congr_right fun _ => and_congr_right fun _ => and_congr_right fun _ => ?_
    cases c with
    | anyOf | allOf | map => rw [check_bind_eq_ok, checkOneBag_eq_ok]; rfl
    | anyOfAny => exact (and_iff_right trivial).symm
    | allOfAny | anyOfAll | allOfAll => rw [check_bind_eq_ok, checkBags_eq_ok]; rfl

end Combinator

end Xacml
