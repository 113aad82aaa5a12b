/-
Whole histories of a factory. A session is a scope with the expressions that it has handed out so
far; a step builds an expression out of those, defines or removes a variable, declares a function,
or evaluates. What has been handed out stays usable whatever becomes of the scope.
-/
import Xacml.Scope
import Xacml.Proofs.Typing.Binding

namespace Xacml

/-! ## What the operations of a scope do when they succeed -/

theorem FunctionTable.get_eq_ok {t : FunctionTable} {id : String} {f : Function}
    (h : t.get id = .ok f) : t.find? id = some f := by
  unfold get at h
  split at h
  · cases h; assumption
  · cases h

namespace Scope

variable {s s' : Scope} {id : String} {e : Expr}

theorem function_eq_ok (h : s.function id = .ok e) :
    ∃ f, s.functions.find? id = some f ∧ e = .constant (.function f) := by
  unfold function at h
  cases hg : s.functions.get id with
  | error err => rw [hg] at h; cases h
  | ok f => rw [hg] at h; cases h; exact ⟨f, FunctionTable.get_eq_ok hg, rfl⟩

theorem apply_eq_ok {arguments : List Expr} (h : s.apply id arguments = .ok e) :
    ∃ f, s.functions.find? id = some f ∧ f.bind (arguments.map Expr.static) [] = .ok () ∧
      e = .apply f arguments := by
  obtain ⟨f, hf, h⟩ := Xacml.bind_eq_ok.1 h
  obtain ⟨hb, h⟩ := check_bind_eq_ok.1 h
  cases h
  exact ⟨f, FunctionTable.get_eq_ok hf, hb, rfl⟩

theorem selector_eq_ok {category path : String} {contextSelector : Option String}
    {type : AttributeType} {mustBePresent : Bool}
    (h : s.selector category path contextSelector type mustBePresent = .ok e) :
    ∃ sel, e = .leaf (.selector sel) := by
  unfold selector at h
  split at h
  · cases h
  · split at h
    · cases h
    · obtain ⟨p, -, h⟩ := Xacml.bind_eq_ok.1 h
      cases h
      exact ⟨_, rfl⟩

theorem reference_eq_ok (h : s.reference id = .ok e) :
    ∃ v ∈ s.definitions.entries, v.id = id ∧ e = v.reference := by
  unfold reference VariableTable.get at h
  split at h
  · rename_i v hv
    cases h
    exact ⟨v, List.mem_of_find?_eq_some hv, by simpa using List.find?_some hv, rfl⟩
  · cases h

theorem define_eq_ok {definition : Expr} (h : s.define id definition = .ok s') :
    s' = { s with definitions := { s.definitions with
      entries := ⟨id, definition, definition.chain⟩ :: s.definitions.entries } } := by
  unfold define VariableTable.define at h
  split at h
  · cases h
  · split at h
    · cases h
    · cases h; rfl

theorem declare_eq_ok {f : FirstOrderFunction} (h : s.declare f = .ok s') :
    s' = { s with functions := ⟨s.functions.functions ++ [.firstOrder f]⟩ } := by
  obtain ⟨-, -, h⟩ := Xacml.bind_eq_ok.1 h
  obtain ⟨functions, hadd, h⟩ := Xacml.bind_eq_ok.1 h
  cases h
  unfold FunctionTable.add at hadd
  split at hadd
  · cases hadd
  · cases hadd; rfl

theorem ofSettings_eq_ok {settings : Settings} (h : ofSettings settings = .ok s) :
    s.functions = ⟨Library.standard⟩ ∧ s.definitions = .empty settings.variableDepth := by
  unfold ofSettings Settings.validate at h
  split at h <;> cases h
  exact ⟨rfl, rfl⟩

end Scope

/-! ## Sessions -/

/-- A factory in use. -/
structure Session where
  scope : Scope
  /-- Every expression handed out so far, the latest first. -/
  built : List Expr

namespace Session

def handOut (s : Session) (e : Expr) : Session := { s with built := e :: s.built }

def withScope (s : Session) (scope : Scope) : Session := { s with scope }

/-- One use of a factory: functions are named by identifiers that satisfy `N`, and leaves made
elsewhere satisfy `L`. -/
inductive Step (N : String → Prop) (L : Leaf → Prop) (s : Session) : Session → Prop
  | value (v : AttributeValue) : Step N L s (s.handOut (.constant (.single v)))
  | bag (b : Bag) : Step N L s (s.handOut (.constant (.bag b)))
  | literal {type : AttributeType} {text : String} {v : AttributeValue} :
      Scope.literal type text = .ok v → Step N L s (s.handOut (.constant (.single v)))
  | function {id : String} {e : Expr} : N id → s.scope.function id = .ok e →
      Step N L s (s.handOut e)
  | leaf {l : Leaf} : L l → Step N L s (s.handOut (.leaf l))
  | selector {category path : String} {contextSelector : Option String} {type : AttributeType}
      {mustBePresent : Bool} {e : Expr} :
      s.scope.selector category path contextSelector type mustBePresent = .ok e →
      Step N L s (s.handOut e)
  | apply {id : String} {arguments : List Expr} {e : Expr} : N id →
      (∀ a ∈ arguments, a ∈ s.built) → s.scope.apply id arguments = .ok e →
      Step N L s (s.handOut e)
  | reference {id : String} {e : Expr} : s.scope.reference id = .ok e → Step N L s (s.handOut e)
  | define {id : String} {definition : Expr} {scope : Scope} : definition ∈ s.built →
      s.scope.define id definition = .ok scope → Step N L s (s.withScope scope)
  | remove (id : String) : Step N L s (s.withScope (s.scope.remove id))
  | declare {f : FirstOrderFunction} {scope : Scope} : s.scope.declare f = .ok scope →
      Step N L s (s.withScope scope)
  | evaluate {e : Expr} (ctx : Option Context) : e ∈ s.built →
      Step N L s (s.withScope (s.scope.run (e.eval ctx)).2)

/-- What becomes of a factory of the standard library, whichever way it makes location paths
ready. -/
inductive Reachable (N : String → Prop) (L : Leaf → Prop) : Session → Prop
  | start {settings : Settings} {scope : Scope}
      (pathCompiler : Option (String → Except BuildError Path)) :
      Scope.ofSettings settings = .ok scope → Reachable N L ⟨{ scope with pathCompiler }, []⟩
  | step {s s' : Session} : Reachable N L s → Step N L s s' → Reachable N L s'

end Session

end Xacml
