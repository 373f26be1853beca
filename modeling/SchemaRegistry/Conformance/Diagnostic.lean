import SchemaRegistry.Schema.Category
import SchemaRegistry.Json.Basic

/-!
# Diagnostics

What can be wrong with the fields of a host type, and the verdict on them: they conform if nothing is wrong.
-/

namespace SchemaRegistry

/-- One way in which a host type does not conform to a schema. Names are in upper case. -/
inductive Diagnostic where
  /-- The names in only one of fields and attributes. -/
  | setMismatch (names : List String)
  /-- The attributes without a field. -/
  | missing (names : List String)
  /-- An attribute without a field. -/
  | noField (name : String)
  /-- An attribute whose field has a category that cannot carry it. -/
  | incompatible (name : String) (expected actual : Category)
deriving DecidableEq, Repr

namespace Diagnostic

/-- The word of the kind of a diagnostic. -/
def kind : Diagnostic → String
  | setMismatch _ => "ATTRIBUTE_SET_MISMATCH"
  | missing _ => "MISSING_ATTRIBUTES"
  | noField _ => "FIELD_NOT_FOUND"
  | incompatible .. => "TYPE_INCOMPATIBLE"

/-- The names that a diagnostic is about. -/
def names : Diagnostic → List String
  | setMismatch names => names
  | missing names => names
  | noField name => [name]
  | incompatible name _ _ => [name]

/-- The message of a diagnostic. -/
def message : Diagnostic → String
  | setMismatch names => "Host fields and schema attributes differ: " ++ ", ".intercalate names
  | missing names => "Schema attributes missing from host type: " ++ ", ".intercalate names
  | noField name => "No host field named " ++ name
  | incompatible name expected actual =>
    name ++ " needs a " ++ expected.word ++ " field, host declares " ++ actual.word

/-- The category an incompatible attribute requires. -/
def expected? : Diagnostic → Option Category
  | incompatible _ expected _ => some expected
  | _ => none

/-- The category of the field of an incompatible attribute. -/
def actual? : Diagnostic → Option Category
  | incompatible _ _ actual => some actual
  | _ => none

/-- A diagnostic as JSON. -/
def toJson (d : Diagnostic) : Json :=
  .obj
    [("kind", .str d.kind),
     ("attributes", .ofTexts d.names),
     ("expected", .ofText? (d.expected?.map Category.word)),
     ("actual", .ofText? (d.actual?.map Category.word)),
     ("message", .str d.message)]

end Diagnostic

/-- The verdict on a host type. -/
structure Verdict where
  diagnostics : List Diagnostic
deriving DecidableEq, Repr

namespace Verdict

/-- Nothing is wrong. -/
def passed (v : Verdict) : Bool := v.diagnostics.isEmpty

/-- A verdict as JSON. -/
def toJson (v : Verdict) : Json :=
  .obj [("passed", .bool v.passed), ("diagnostics", .arr (v.diagnostics.map Diagnostic.toJson))]

end Verdict

end SchemaRegistry
