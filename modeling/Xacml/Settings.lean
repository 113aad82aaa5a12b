/-
Settings: the limit on chains of variables, the capacity of the store of compiled patterns, and
whether content may be selected. They are read from documents and written as YAML.
-/
import Xacml.BuildError
import Xacml.Document.Json
import Xacml.Document.Yaml.Reader

namespace Xacml

structure Settings where
  /-- The longest chain of references that a variable may have. -/
  variableDepth : Option Nat
  patternCapacity : Nat
  /-- Whether selectors may be built. -/
  selectors : Bool
deriving DecidableEq, Repr

namespace Settings

def standard : Settings := ⟨none, 64, false⟩

/-- The largest capacity that is accepted. -/
def maxPatternCapacity : Nat := 1 <<< 20

/-- Refuses a capacity that is too large. -/
def validate (s : Settings) : Except BuildError Settings :=
  if s.patternCapacity ≤ maxPatternCapacity then .ok s
  else .error (.cacheCapacity s.patternCapacity maxPatternCapacity)

/-! ## Written form -/

def depthKey : String := "max_variable_reference_depth"

def capacityKey : String := "regex_cache_capacity"

def selectorsKey : String := "enable_xpath"

def toDocument (s : Settings) : Document :=
  .record [(depthKey, (s.variableDepth.map Document.ofNat).getD .null),
    (capacityKey, .ofNat s.patternCapacity),
    (selectorsKey, .boolean s.selectors)]

/-- What is not written is as in the standard settings. -/
def ofFields? (fields : List (String × Document)) : Option Settings := do
  let depth ← Document.field? fields depthKey (Document.optional? Document.unsigned?)
    (some standard.variableDepth)
  let capacity ← Document.field? fields capacityKey Document.unsigned?
    (some standard.patternCapacity)
  let selectors ← Document.field? fields selectorsKey Document.boolean? (some standard.selectors)
  some ⟨depth, capacity, selectors⟩

def fieldNames : List String := [depthKey, capacityKey, selectorsKey]

/-- Accepts settings that were read, if they were. -/
def ofFound (found : Option Settings) : Except BuildError Settings :=
  match found with
  | some s => s.validate
  | none => .error .settingsText

def ofJson (text : String) : Except BuildError Settings :=
  ofFound (((Document.Json.read? text).bind (Document.fields? fieldNames)).bind ofFields?)

/-- In YAML, settings are not written as a list. -/
def ofYaml (text : String) : Except BuildError Settings :=
  ofFound (((Document.Yaml.read? text).bind (Document.recordFields? fieldNames)).bind ofFields?)

/-- The YAML text of settings: a line for each. -/
def toYaml (s : Settings) : String :=
  String.join [depthKey, ": ", (s.variableDepth.map toString).getD "null", "\n",
    capacityKey, ": ", toString s.patternCapacity, "\n",
    selectorsKey, ": ", if s.selectors then "true" else "false", "\n"]

end Settings

end Xacml
