/-
Chains of variables over whole histories. A chain is a path of references, each inside the
definition of the one before. Every reference that a session holds carries the length of the longest
chain in its definition, and that is within the limit, because it was measured when the variable was
defined and neither removing nor redefining the variable changes what the reference holds. So the
length that is found one level deep is the true one, and a definition is refused for its true
length only.
-/
import Xacml.Proofs.Expr.Leaves
import Xacml.Proofs.Scope.Session
import Xacml.Proofs.Typing.Expr

namespace Xacml

/-! ## Longest chains -/

namespace Expr

/-- References inside an expression, each inside the definition of the one before. -/
inductive Nests : Expr → List String → Prop
  | none (e : Expr) : Nests e []
  | reference {id : String} {definition : Expr} {chain : Nat} {ids : List String} :
      Nests definition ids → Nests (.reference id definition chain) (id :: ids)
  | argument {f : Function} {arguments : List Expr} {child : Expr} {ids : List String} :
      child ∈ arguments → Nests child ids → Nests (.apply f arguments) ids

/-- The most references that are nested inside an expression are `n`. -/
def LongestChain (e : Expr) (n : Nat) : Prop :=
  (∃ ids, e.Nests ids ∧ ids.length = n) ∧ ∀ ids, e.Nests ids → ids.length ≤ n

/-- Every reference in an expression, also those inside definitions, carries the length of the
longest chain in its definition, and that is within the limit. -/
def Measured (limit : Option Nat) (e : Expr) : Prop :=
  ∀ steps id definition chain, e.Descends steps (.reference id definition chain) →
    definition.LongestChain chain ∧ ∀ m ∈ limit, chain ≤ m

/-! ## What is found one level deep -/

theorem foldl_max_le_iff (l : List Nat) (a n : Nat) :
    l.foldl max a ≤ n ↔ a ≤ n ∧ ∀ x ∈ l, x ≤ n := by
  induction l generalizing a with
  | nil => simp
  | cons x rest ih => rw [List.foldl_cons, ih, Nat.max_le, and_assoc, List.forall_mem_cons]

theorem chain_le_iff (e : Expr) (n : Nat) : e.chain ≤ n ↔ ∀ r ∈ e.references, r.2 + 1 ≤ n := by
  rw [chain, foldl_max_le_iff, List.forall_mem_map]
  exact and_iff_right (Nat.zero_le n)

theorem chain_reference (id : String) (definition : Expr) (chain : Nat) :
    (reference id definition chain).chain = chain + 1 := by
  rw [Expr.chain, references]
  exact Nat.zero_max _

theorem chain_apply_le_iff (f : Function) (arguments : List Expr) (n : Nat) :
    (apply f arguments).chain ≤ n ↔ ∀ e ∈ arguments, e.chain ≤ n := by
  simp only [chain_le_iff, references, referencesOfAll_eq, List.forall_mem_flatMap]

variable {limit : Option Nat}

theorem Measured.argument {f : Function} {arguments : List Expr}
    (h : (apply f arguments).Measured limit) {e : Expr} (he : e ∈ arguments) : e.Measured limit := by
  obtain ⟨i, hi⟩ := List.mem_iff_getElem?.1 he
  exact fun steps id definition chain hd => h _ id definition chain (.argument hi hd)

theorem longestChain_zero {e : Expr} (h : ∀ ids, e.Nests ids → ids = []) : e.LongestChain 0 := by
  refine ⟨⟨[], .none e, rfl⟩, fun ids hids => ?_⟩
  rw [h ids hids]
  exact Nat.le_refl 0

theorem LongestChain.reference {id : String} {definition : Expr} {chain n : Nat}
    (h : definition.LongestChain n) : (reference id definition chain).LongestChain (n + 1) := by
  obtain ⟨⟨ids, hids, hlength⟩, hmax⟩ := h
  refine ⟨⟨id :: ids, .reference hids, by rw [List.length_cons, hlength]⟩, fun ids' h' => ?_⟩
  cases h' with
  | none => exact Nat.zero_le _
  | reference h' => exact Nat.succ_le_succ (hmax _ h')

theorem longestChain_apply {f : Function} {arguments : List Expr}
    (h : ∀ e ∈ arguments, e.LongestChain e.chain) :
    (apply f arguments).LongestChain (apply f arguments).chain := by
  have hle := (chain_apply_le_iff f arguments _).1 (Nat.le_refl _)
  constructor
  · -- the length is zero, or some argument reaches it
    rcases Nat.eq_zero_or_pos (apply f arguments).chain with hzero | hpos
    · exact ⟨[], .none _, hzero.symm⟩
    · have hshort : ¬ ∀ e ∈ arguments, e.chain ≤ (apply f arguments).chain - 1 := by
        rw [← chain_apply_le_iff f]
        omega
      push Not at hshort
      obtain ⟨e, he, hlong⟩ := hshort
      obtain ⟨⟨ids, hids, hlength⟩, -⟩ := h e he
      have hreached := hle e he
      exact ⟨ids, .argument he hids, by omega⟩
  · intro ids hids
    cases hids with
    | none => exact Nat.zero_le _
    | argument he hids => exact ((h _ he).2 ids hids).trans (hle _ he)

/-- In an expression whose references carry the lengths of their chains, the length that is found
one level deep is that of the longest chain. -/
theorem Measured.longestChain {e : Expr} (h : e.Measured limit) : e.LongestChain e.chain := by
  induction e using Expr.induction with
  | constant v => exact longestChain_zero fun ids hids => by cases hids; rfl
  | leaf l => exact longestChain_zero fun ids hids => by cases hids; rfl
  | reference id definition chain _ =>
    rw [chain_reference]
    exact (h [] id definition chain (.here _)).1.reference
  | apply f arguments ih => exact longestChain_apply fun e he => ih e he (h.argument he)

/-! ## Ways to build a measured expression -/

theorem measured_constant (v : Value) : (constant v).Measured limit := by
  rintro steps id definition chain ⟨⟩

theorem measured_leaf (l : Leaf) : (leaf l).Measured limit := by
  rintro steps id definition chain ⟨⟩

theorem measured_apply {f : Function} {arguments : List Expr}
    (h : ∀ e ∈ arguments, e.Measured limit) : (apply f arguments).Measured limit := by
  intro steps id definition chain hd
  cases hd with
  | argument hi hd => exact h _ (List.mem_of_getElem? hi) _ _ _ _ hd

theorem Measured.reference {id : String} {definition : Expr} (h : definition.Measured limit)
    (hlimit : ∀ m ∈ limit, definition.chain ≤ m) :
    (reference id definition definition.chain).Measured limit := by
  intro steps id' definition' chain' hd
  cases hd with
  | here => exact ⟨h.longestChain, hlimit⟩
  | reference hd => exact h _ _ _ _ hd

end Expr

/-! ## Definitions -/

namespace VariableTable

variable {t : VariableTable} {id : String}

theorem contains_iff : t.contains id = true ↔ ∃ v ∈ t.entries, v.id = id := by
  rw [contains, find?, List.find?_isSome]
  simp only [beq_iff_eq]

theorem not_contains (h : ∀ v ∈ t.entries, v.id ≠ id) : ¬ t.contains id = true := fun hc =>
  let ⟨v, hv, hid⟩ := contains_iff.1 hc
  h v hv hid

end VariableTable

namespace Scope

variable {s : Scope} {id : String} {definition : Expr}

theorem define_duplicate (h : ∃ v ∈ s.definitions.entries, v.id = id) :
    s.define id definition = .error (.duplicateVariable id) := by
  rw [define, VariableTable.define, if_pos (VariableTable.contains_iff.2 h)]
  rfl

theorem define_tooDeep (h : ∀ v ∈ s.definitions.entries, v.id ≠ id) {m : Nat}
    (hm : m ∈ s.definitions.limit) (hlt : m < definition.chain) :
    s.define id definition = .error (.variableDepth id definition.chain m) := by
  have hover : s.definitions.limit.filter (· < definition.chain) = some m :=
    Option.filter_eq_some_iff.2 ⟨hm, decide_eq_true hlt⟩
  rw [define, VariableTable.define, if_neg (VariableTable.not_contains h), hover]
  rfl

theorem define_new (h : ∀ v ∈ s.definitions.entries, v.id ≠ id)
    (hm : ∀ m ∈ s.definitions.limit, definition.chain ≤ m) :
    s.define id definition = .ok { s with definitions := { s.definitions with
      entries := ⟨id, definition, definition.chain⟩ :: s.definitions.entries } } := by
  have hwithin : s.definitions.limit.filter (· < definition.chain) = none := by
    rw [Option.filter_eq_none_iff]
    intro m hmem
    simpa using hm m hmem
  rw [define, VariableTable.define, if_neg (VariableTable.not_contains h), hwithin]
  rfl

/-- What is defined is within the limit. -/
theorem chain_le_of_define {s' : Scope} (h : s.define id definition = .ok s') :
    ∀ m ∈ s.definitions.limit, definition.chain ≤ m := by
  intro m hm
  by_contra hlt
  rw [Nat.not_le] at hlt
  by_cases hid : ∃ v ∈ s.definitions.entries, v.id = id
  · rw [define_duplicate hid] at h
    cases h
  · push Not at hid
    rw [define_tooDeep hid hm hlt] at h
    cases h

end Scope

/-! ## Sessions -/

namespace Session

variable {N : String → Prop} {L : Leaf → Prop} {s s' : Session}

/-- Defines a variable: the length of its longest chain, or why it is refused, and the session after
that. -/
def define (s : Session) (id : String) (definition : Expr) : Except BuildError Nat × Session :=
  match s.scope.define id definition with
  | .ok scope => (.ok definition.chain, s.withScope scope)
  | .error e => (.error e, s)

/-- Every reference that is handed out, or that will be, is measured. -/
structure Measured (s : Session) : Prop where
  limit : s.scope.definitions.limit = s.scope.settings.variableDepth
  built : ∀ e ∈ s.built, e.Measured s.scope.settings.variableDepth
  entries : ∀ v ∈ s.scope.definitions.entries,
    v.reference.Measured s.scope.settings.variableDepth

theorem Measured.handOut (h : s.Measured) {e : Expr}
    (he : e.Measured s.scope.settings.variableDepth) : (s.handOut e).Measured :=
  ⟨h.limit, List.forall_mem_cons.2 ⟨he, h.built⟩, h.entries⟩

theorem Step.measured (h : Step N L s s') (hs : s.Measured) : s'.Measured := by
  cases h with
  | value v => exact hs.handOut (Expr.measured_constant _)
  | bag _ => exact hs.handOut (Expr.measured_constant _)
  | literal _ => exact hs.handOut (Expr.measured_constant _)
  | function _ he =>
    obtain ⟨f, -, rfl⟩ := Scope.function_eq_ok he
    exact hs.handOut (Expr.measured_constant _)
  | leaf _ => exact hs.handOut (Expr.measured_leaf _)
  | selector he =>
    obtain ⟨sel, rfl⟩ := Scope.selector_eq_ok he
    exact hs.handOut (Expr.measured_leaf _)
  | apply _ hargs he =>
    obtain ⟨f, -, -, rfl⟩ := Scope.apply_eq_ok he
    exact hs.handOut (Expr.measured_apply fun a ha => hs.built a (hargs a ha))
  | reference he =>
    obtain ⟨v, hv, -, rfl⟩ := Scope.reference_eq_ok he
    exact hs.handOut (hs.entries v hv)
  | define hd hdefine =>
    have hwithin := Scope.chain_le_of_define hdefine
    cases Scope.define_eq_ok hdefine
    refine ⟨hs.limit, hs.built, List.forall_mem_cons.2 ⟨?_, hs.entries⟩⟩
    exact (hs.built _ hd).reference (hs.limit ▸ hwithin)
  | remove id =>
    exact ⟨hs.limit, hs.built, fun v hv => hs.entries v (List.mem_filter.1 hv).1⟩
  | declare hdeclare =>
    cases Scope.declare_eq_ok hdeclare
    exact ⟨hs.limit, hs.built, hs.entries⟩
  | evaluate _ _ => exact ⟨hs.limit, hs.built, hs.entries⟩

theorem Reachable.measured (h : Reachable N L s) : s.Measured := by
  induction h with
  | start _ hscope =>
    unfold Scope.ofSettings Settings.validate at hscope
    split at hscope <;> cases hscope
    exact ⟨rfl, List.forall_mem_nil _, List.forall_mem_nil _⟩
  | step _ hstep ih => exact hstep.measured ih

/-- Whatever has been defined, removed and defined again, every reference that is stored or has been
handed out carries the length of the longest chain in its definition, which is within the limit. A
variable is refused if its identifier is in use, or else if the longest chain in its definition is
over the limit, and then nothing changes; otherwise it is defined. -/
theorem Reachable.chains_exact (h : Reachable N L s) :
    (∀ e, (e ∈ s.built ∨ ∃ v ∈ s.scope.definitions.entries, e = v.reference) →
      e.Measured s.scope.settings.variableDepth) ∧
    ∀ definition ∈ s.built, ∀ id, ∃ n, definition.LongestChain n ∧
      ((∃ v ∈ s.scope.definitions.entries, v.id = id) →
        s.define id definition = (.error (.duplicateVariable id), s)) ∧
      ((∀ v ∈ s.scope.definitions.entries, v.id ≠ id) →
        (∀ m ∈ s.scope.settings.variableDepth, m < n →
          s.define id definition = (.error (.variableDepth id n m), s)) ∧
        ((∀ m ∈ s.scope.settings.variableDepth, n ≤ m) →
          s.define id definition = (.ok n, s.withScope { s.scope with
            definitions := { s.scope.definitions with
              entries := ⟨id, definition, n⟩ :: s.scope.definitions.entries } }))) := by
  have hs := h.measured
  constructor
  · rintro e (he | ⟨v, hv, rfl⟩)
    · exact hs.built e he
    · exact hs.entries v hv
  · intro definition hd id
    refine ⟨definition.chain, (hs.built _ hd).longestChain, fun hid => ?_, fun hid => ⟨?_, ?_⟩⟩
    · rw [define, Scope.define_duplicate hid]
    · intro m hm hlt
      rw [define, Scope.define_tooDeep hid (hs.limit ▸ hm) hlt]
    · intro hm
      rw [define, Scope.define_new hid (hs.limit ▸ hm)]

/-- With chains limited to one, a reference to a variable that has been removed and defined anew
still carries its own chain, and is too deep for another definition. -/
theorem chains_exact_redefined :
    ∃ (s : Session) (old : Expr), Reachable (fun _ => True) (fun _ => True) s ∧ old ∈ s.built ∧
      old.Measured (some 1) ∧ (∃ v ∈ s.scope.definitions.entries, v.id = "y") ∧
      s.define "y" old = (.error (.duplicateVariable "y"), s) ∧
      ∃ n, old.LongestChain n ∧ 1 < n ∧ s.define "z" old = (.error (.variableDepth "z" n 1), s) := by
  let one : Expr := .constant (.single (.integer 1))
  let x : Variable := ⟨"x", one, 0⟩
  let y : Variable := ⟨"y", x.reference, 1⟩
  let y' : Variable := ⟨"y", one, 0⟩
  let scope (entries : List Variable) : Scope :=
    ⟨⟨some 1, 64, false⟩, ⟨Library.standard⟩, ⟨some 1, entries⟩, .empty 64, none⟩
  let s : Session := ⟨scope [y', x], [y.reference, x.reference, one]⟩
  have hs : Reachable (fun _ => True) (fun _ => True) s := by
    have hscope : Scope.ofSettings ⟨some 1, 64, false⟩ = .ok (scope []) := rfl
    have hx : (scope []).define "x" one = .ok (scope [x]) := rfl
    have hrefx : (scope [x]).reference "x" = .ok x.reference := rfl
    have hy : (scope [x]).define "y" x.reference = .ok (scope [y, x]) := rfl
    have hrefy : (scope [y, x]).reference "y" = .ok y.reference := rfl
    have hy' : (scope [x]).define "y" one = .ok (scope [y', x]) := rfl
    refine .step (.step (.step (.step (.step (.step (.step (.start none hscope) (.value _))
      (.define List.mem_cons_self hx)) (.reference hrefx)) (.define List.mem_cons_self hy))
      (.reference hrefy)) (.remove "y")) (.define ?_ hy')
    simp [handOut, withScope, one]
  have hold : y.reference ∈ s.built := List.mem_cons_self
  obtain ⟨hmeasured, hdefine⟩ := hs.chains_exact
  have hused : ∃ v ∈ s.scope.definitions.entries, v.id = "y" := ⟨y', List.mem_cons_self, rfl⟩
  obtain ⟨n, hn, hdeep⟩ := hdefine _ hold "z"
  have htwo : 1 < n := hn.2 ["y", "x"] (.reference (.reference (.none _)))
  have hnew : ∀ v ∈ s.scope.definitions.entries, v.id ≠ "z" := by decide
  obtain ⟨_, _, hduplicate, -⟩ := hdefine _ hold "y"
  exact ⟨s, y.reference, hs, hold, hmeasured _ (.inl hold), hused, hduplicate hused, n, hn, htwo,
    (hdeep.2 hnew).1 1 rfl htwo⟩

end Session

end Xacml
