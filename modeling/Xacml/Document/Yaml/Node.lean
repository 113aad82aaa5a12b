/-
The nodes of a YAML text, and the documents that they stand for. Only a plain scalar may denote
something else than a text: null, a boolean or a number.
-/
import Xacml.Document.Basic

namespace Xacml.Document.Yaml

inductive Node where
  /-- A scalar without quotes; a tag may say that it is no null. -/
  | plain (s : String) (tagged : Bool)
  | quoted (s : String)
  | list (items : List Node)
  | record (entries : List (Node × Node))

namespace Node

def empty : Node := plain "" false

/-- The text of a scalar. -/
def text? : Node → Option String
  | plain s _ => some s
  | quoted s => some s
  | _ => none

/-- The node under a tag. -/
def tag : Node → Node
  | plain s _ => plain s true
  | n => n

end Node

/-! ## Plain scalars -/

def nullWords : List String := ["", "~", "null", "Null", "NULL"]

def trueWords : List String := ["true", "True", "TRUE"]

def falseWords : List String := ["false", "False", "FALSE"]

/-- The value of a digit in a base up to sixteen. -/
def digitIn? (base : Nat) (c : Char) : Option Nat :=
  let value? :=
    if '0' ≤ c ∧ c ≤ '9' then some (c.toNat - '0'.toNat)
    else if 'a' ≤ c ∧ c ≤ 'f' then some (c.toNat - 'a'.toNat + 10)
    else if 'A' ≤ c ∧ c ≤ 'F' then some (c.toNat - 'A'.toNat + 10)
    else none
  value?.filter (· < base)

/-- The number of at least one digit. -/
def numberIn? (base : Nat) (digits : List Char) : Option Nat :=
  if digits.isEmpty then none
  else (digits.mapM (digitIn? base)).map (·.foldl (fun n d => n * base + d) 0)

/-- The number of a plain scalar: digits, in a base that may be marked in front. A decimal has no
zero in front. -/
def number? (s : List Char) : Option Nat :=
  let unsigned := match s with
    | '+' :: rest => rest
    | _ => s
  match unsigned with
  | '0' :: 'x' :: digits => numberIn? 16 digits
  | '0' :: 'o' :: digits => numberIn? 8 digits
  | '0' :: 'b' :: digits => numberIn? 2 digits
  | '0' :: _ :: _ => none
  | digits => numberIn? 10 digits

/-- What a plain scalar denotes. -/
def resolve (s : String) (tagged : Bool) : Document :=
  if nullWords.contains s ∧ !tagged then .null
  else if trueWords.contains s then .boolean true
  else if falseWords.contains s then .boolean false
  else match number? s.toList with
    | some n => .ofNat n
    | none => .text s

/-! ## Documents -/

namespace Node

mutual

/-- The document of a node, whose keys must all be scalars. -/
def document? (n : Node) : Option Document :=
  match n with
  | plain s tagged => some (resolve s tagged)
  | quoted s => some (.text s)
  | list items => (documents? items).map .list
  | record entries => (documentEntries? entries).map .record
termination_by structural n

def documents? (ns : List Node) : Option (List Document) :=
  match ns with
  | [] => some []
  | n :: rest => do
    let d ← document? n
    let ds ← documents? rest
    some (d :: ds)
termination_by structural ns

def documentEntries? (es : List (Node × Node)) : Option (List (String × Document)) :=
  match es with
  | [] => some []
  | e :: rest => do
    let entry ← documentEntry? e
    let others ← documentEntries? rest
    some (entry :: others)
termination_by structural es

def documentEntry? (e : Node × Node) : Option (String × Document) :=
  match e with
  | (key, n) => do
    let name ← key.text?
    let d ← document? n
    some (name, d)
termination_by structural e

end

end Node

end Xacml.Document.Yaml
