/-
Texts that show the structure of calls and expressions. Leaves are shown by their labels.
-/
import Xacml.Evaluation.Combinator
import Xacml.Inspect.Value

namespace Xacml

/-- An argument of a call that is shown: what is known of it, and its text. -/
structure ShownOperand extends Static where
  shown : String

/-- Shows a call of a first-order function; `remaining` counts the values that will be given. -/
def FirstOrder.inspectCall (patterns : Pattern.Cache) (f : FirstOrderFunction)
    (operands : List ShownOperand) (remaining : Nat) : String :=
  let id := ("function_id", Inspect.quoted f.id)
  let arguments := ("args", Inspect.list (operands.map (·.shown)))
  match f.body with
  | .connective c =>
    Inspect.record "LogicalCall"
      [("connective", c.tag), id, arguments, ("arg_count", toString (operands.length + remaining))]
  | .matching =>
    Inspect.record "RegexpMatchCall"
      [id, arguments,
        ("compiled", Inspect.optional
          ((constantPattern? (operands.map (·.toStatic))).map fun p =>
            Inspect.tuple "Regex" (Inspect.quoted p))),
        ("cache", patterns.inspect)]
  | .kernel _ _ | .declaredOnly => Inspect.record "EagerCall" [id, arguments]

/-- Shows a call of a combinator, and in it the call of the function that it applies. -/
def Combinator.inspectCall (patterns : Pattern.Cache) (c : Combinator)
    (operands : List ShownOperand) : String :=
  let arguments := ("args", Inspect.list (operands.map (·.shown)))
  let rest := operands.tail
  let sub (bound : List ShownOperand) := ("sub_call",
    match (operands.head?).bind (·.value?) with
    | some (.function (.firstOrder g)) => g.inspectCall patterns bound (rest.length - bound.length)
    | _ => "")
  match c with
  | .anyOf | .allOf | .map =>
    let bound := rest.takeWhile (·.toStatic.isBindable)
    let returns := Expr.applicationType (.combinator c) ((operands.head?).bind (·.value?))
    Inspect.record "OneBagCall"
      [("kind", c.tag), ("return_type", returns.inspect), arguments,
        ("first_runtime", toString (bound.length + 1)),
        ("bag_index", toString ((rest.takeWhile (!·.datatype.isBag)).length + 1)),
        sub bound]
  | .anyOfAny => Inspect.record "AnyOfAnyCall" [arguments, sub []]
  | .allOfAny | .anyOfAll | .allOfAll =>
    Inspect.record "TwoBagCall" [("kind", c.tag), arguments, sub []]

def Callable.inspectCall (patterns : Pattern.Cache) (f : Function) (operands : List ShownOperand)
    (remaining : Nat) : String :=
  match f with
  | .firstOrder g => g.inspectCall patterns operands remaining
  | .combinator c => c.inspectCall patterns operands

namespace Expr

mutual

/-- Shows an expression; `refusal` is how the reader of patterns puts its refusal of a text. -/
def inspect (refusal : String → String) (patterns : Pattern.Cache) (e : Expr) : String :=
  match e with
  | constant (.function f) =>
    Inspect.record "FunctionExpression" [("value", Value.inspect refusal (.function f))]
  | constant v => Inspect.record "ConstantExpression" [("value", v.inspect refusal)]
  | leaf (.designator d) => d.label
  | leaf (.selector s) => s.label
  | leaf (.supplied s) => s.label
  | reference id definition chain =>
    Inspect.record "VariableReference"
      [("id", Inspect.quoted id), ("expression", inspect refusal patterns definition),
        ("longest_chain", toString chain)]
  | apply f arguments =>
    Inspect.record "Apply"
      [("function_id", Inspect.quoted f.id),
        ("call", f.inspectCall patterns (shownOperands refusal patterns arguments) 0)]
termination_by structural e

/-- Expressions as shown arguments. -/
def shownOperands (refusal : String → String) (patterns : Pattern.Cache) (es : List Expr) :
    List ShownOperand :=
  match es with
  | [] => []
  | e :: rest =>
    ⟨e.static, inspect refusal patterns e⟩ :: shownOperands refusal patterns rest
termination_by structural es

end

end Expr

end Xacml
