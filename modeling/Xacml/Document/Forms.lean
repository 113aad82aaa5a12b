/-
Documents of names, sources, statuses, types, values and failures. The first four are read back;
what is read of each is at least what is written.
-/
import Xacml.Bag.Source
import Xacml.Document.Basic
import Xacml.Request

namespace Xacml

/-! ## Names -/

namespace AttributeName

def fieldNames : List String := ["category", "id", "issuer"]

def toDocument (n : AttributeName) : Document :=
  .record [("category", .text n.category), ("id", .text n.id), ("issuer", .ofText? n.issuer)]

/-- A name that is written without an issuer has none. -/
def ofDocument? (d : Document) : Option AttributeName := do
  let fields ← d.fields? fieldNames
  let category ← Document.field? fields "category" Document.text? none
  let id ← Document.field? fields "id" Document.text? none
  let issuer ← Document.field? fields "issuer" (Document.optional? Document.text?) (some none)
  some ⟨category, id, issuer⟩

theorem ofDocument?_toDocument (n : AttributeName) : ofDocument? n.toDocument = some n := by
  rcases n with ⟨category, id, _ | issuer⟩ <;>
    simp [ofDocument?, toDocument, Document.fields?, Document.recordFields?, fieldNames,
      Document.field?, List.lookup_cons, Document.ofText?, Document.optional?, Document.text?,
      List.eraseDups_cons]

end AttributeName

/-! ## Sources -/

namespace Source

def toDocument : Source → Document
  | .request => .text "request"
  | .policyDefault => .text "policy_default"
  | .provider name => .record [("provider", .text name)]

def ofDocument? (d : Document) : Option Source :=
  match d.case? with
  | some ("provider", some (.text name)) => some (.provider name)
  | _ =>
    match d.plainCase? with
    | some "request" => some .request
    | some "policy_default" => some .policyDefault
    | _ => none

theorem ofDocument?_toDocument (s : Source) : ofDocument? s.toDocument = some s := by
  cases s <;> rfl

end Source

/-! ## Statuses and types -/

namespace Status

def toDocument (s : Status) : Document := .text s.name

def ofDocument? (d : Document) : Option Status := d.plainCase?.bind ofName?

theorem ofDocument?_toDocument (s : Status) : ofDocument? s.toDocument = some s := by
  cases s <;> decide

end Status

namespace AttributeType

def toDocument (t : AttributeType) : Document := .text t.name

/-- Only the local name of a type is read here. -/
def ofDocument? (d : Document) : Option AttributeType := d.plainCase?.bind ofName?

theorem ofDocument?_toDocument (t : AttributeType) : ofDocument? t.toDocument = some t := by
  cases t <;> decide

end AttributeType

/-! ## Values and failures -/

def AttributeValue.toDocument (v : AttributeValue) : Document :=
  .record [("datatype", .text v.type.id), ("value", .text v.text)]

/-- The document of a frame that was caused by the failure of the document `cause`. -/
def Frame.toDocument (refusal : String → String) (f : Frame) (cause : Document) : Document :=
  .record [("status", f.status.toDocument), ("message", .text (f.message refusal)), ("cause", cause)]

/-- Each failure holds its cause. -/
def Failure.toDocument (refusal : String → String) (f : Failure) : Document :=
  f.chain.foldr (Frame.toDocument refusal) .null

end Xacml
