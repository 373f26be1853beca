import SchemaRegistry.Conformance.Diagnostic
import SchemaRegistry.Host.Field
import SchemaRegistry.Log.Record
import SchemaRegistry.Schema.Details

/-!
# Conformance

A host type conforms to a schema if its field names are those of the attributes (in strict mode) or include
them (in matching mode), and if the first field of each attribute's name can carry the attribute. Names are
compared in upper case. If the names are wrong, categories are not looked at.
-/

namespace SchemaRegistry.Conformance

/-! ## Names -/

/-- The names in only one of two lists, in code-point order. -/
def symmetricDifference (xs ys : List String) : List String :=
  Text.nameSet (xs.filter (!ys.contains ·) ++ ys.filter (!xs.contains ·))

/-- The names of the first list that are not in the second, in code-point order. -/
def difference (xs ys : List String) : List String := Text.nameSet (xs.filter (!ys.contains ·))

/-- What is wrong with the names of the fields, if anything is. -/
def checkNames (mode : Mode) (fieldNames attributeNames : List String) : Option Diagnostic :=
  match mode with
  | .strict =>
    match symmetricDifference fieldNames attributeNames with
    | [] => none
    | names => some (.setMismatch names)
  | .matching =>
    match difference attributeNames fieldNames with
    | [] => none
    | names => some (.missing names)

/-! ## Categories -/

/-- The first field with a name that is given in upper case. -/
def findField (fields : List HostField) (folded : String) : Option HostField :=
  fields.find? fun field => field.folded == folded

/-- What is wrong with the field of an attribute, if anything is. -/
def checkAttribute (fields : List HostField) (a : Attribute) : Option Diagnostic :=
  match findField fields a.folded with
  | none => some (.noField a.folded)
  | some field =>
    if a.accepts field.category then none
    else some (.incompatible a.folded a.kind.required field.category)

/-- Judges attributes one after the other, and reports what is wrong. With `failFast` the first fault ends
it. -/
def judge (fields : List HostField) (failFast : Bool) : List Attribute → List Diagnostic
  | [] => []
  | a :: rest =>
    match checkAttribute fields a with
    | none => judge fields failFast rest
    | some d => if failFast then [d] else d :: judge fields failFast rest

/-- The diagnostics to report: the first alone, or all of them. -/
def report (failFast : Bool) (diagnostics : List Diagnostic) : List Diagnostic :=
  if failFast then diagnostics.take 1 else diagnostics

/-- Stopping at the first fault leaves the first of all diagnostics. -/
theorem judge_eq_report (fields : List HostField) (failFast : Bool) (items : List Attribute) :
    judge fields failFast items = report failFast (items.filterMap (checkAttribute fields)) := by
  induction items with
  | nil => cases failFast <;> rfl
  | cons a rest ih =>
    rw [judge, ih]
    cases hcheck : checkAttribute fields a with
    | none => rw [List.filterMap_cons_none hcheck]
    | some d =>
      rw [List.filterMap_cons_some hcheck]
      cases failFast <;> rfl

/-! ## Verdicts -/

/-- The record of a failed comparison of names. -/
def namesRecord (reference : String) (d : Diagnostic) : LogRecord :=
  ⟨.error, .validator, "Schema " ++ reference ++ " [Validation Failed] " ++ d.message⟩

/-- The record of incompatible attributes. -/
def categoriesRecord (reference : String) (ds : List Diagnostic) : LogRecord :=
  ⟨.warning, .validator,
    "Schema " ++ reference ++ " [Validation Failed] " ++ toString ds.length ++
      " incompatible attribute(s): " ++ "; ".intercalate (ds.map Diagnostic.message)⟩

/-- Judges the fields of a host type against a schema, and reports what is wrong. -/
def validate (schema : Details) (fields : List HostField) (failFast : Bool) :
    Verdict × List LogRecord :=
  match checkNames schema.mode (fields.map HostField.folded) schema.attributes.names with
  | some d => (⟨[d]⟩, [namesRecord schema.reference d])
  | none =>
    let ds := judge fields failFast schema.attributes.items
    (⟨ds⟩, if ds.isEmpty then [] else [categoriesRecord schema.reference ds])

end SchemaRegistry.Conformance
