import SchemaRegistry.Schema.Attribute
import SchemaRegistry.Schema.Key
import SchemaRegistry.Schema.Lifecycle

/-!
# Schemas

The details of a schema version: what it declares, where it stands in its life, and who did what and when.
-/

namespace SchemaRegistry

/-- Who created a schema and who decided on it, and when. -/
structure Provenance where
  createdBy : LooseText
  createdAt : Time.DateTime
  updatedBy : Option LooseText
  updatedAt : Option Time.DateTime
deriving DecidableEq, Repr

namespace Provenance

/-- Checks who did what and when. -/
def check (value : Json) : Checked Provenance :=
  Checked.record .provenance (fun fields =>
    Provenance.mk <$> Checked.required "created_by" Checked.looseText fields
      <*> Checked.required "created_at" Checked.time fields
      <*> Checked.withDefault "updated_by" none (Checked.nullable Checked.looseText) fields
      <*> Checked.withDefault "updated_at" none (Checked.nullable Checked.time) fields) value

/-- Two records say the same; points in time are compared as such. -/
def same (a b : Provenance) : Bool :=
  a.createdBy == b.createdBy && a.createdAt.same b.createdAt && a.updatedBy == b.updatedBy &&
    match a.updatedAt, b.updatedAt with
    | none, none => true
    | some x, some y => x.same y
    | _, _ => false

/-- The record as JSON. -/
def toJson (p : Provenance) : Json :=
  .obj
    [("created_by", .ofLoose p.createdBy),
     ("created_at", .str p.createdAt.text),
     ("updated_by", .ofLoose? p.updatedBy),
     ("updated_at", .ofText? (p.updatedAt.map Time.DateTime.text))]

end Provenance

/-- A schema version. -/
structure Details where
  key : Key
  description : Option LooseText
  state : State
  format : Format
  mode : Mode
  provenance : Provenance
  attributes : AttributeSet
deriving DecidableEq, Repr

namespace Details

/-- Checks a schema. -/
def check (value : Json) : Checked Details :=
  Checked.record .details (fun fields =>
    Details.mk <$> Checked.required "schema_key" Key.check fields
      <*> Checked.withDefault "description" none (Checked.nullable Checked.looseText) fields
      <*> Checked.required "schema_state" (Checked.choice State) fields
      <*> Checked.required "schema_type" (Checked.choice Format) fields
      <*> Checked.withDefault "validation_type" Mode.matching (Checked.choice Mode) fields
      <*> Checked.required "schema_meta" Provenance.check fields
      <*> Checked.required "attributes" AttributeSet.check fields) value

/-- The reference of the schema. -/
def reference (d : Details) : String := d.key.reference

/-- Two schemas have the same fields; points in time are compared as such. -/
def same (a b : Details) : Bool :=
  a.key == b.key && a.description == b.description && a.state == b.state && a.format == b.format &&
    a.mode == b.mode && a.provenance.same b.provenance && a.attributes == b.attributes

/-- The schema has this key. -/
def hasKey (d : Details) (k : Key) : Bool := d.key == k

/-- The schema declares an attribute of this name, whatever the case of its letters. -/
def hasAttribute (d : Details) (name : String) : Bool := d.attributes.has name

/-- The attribute names in upper case, in code-point order. -/
def attributeNames (d : Details) : List String := Text.nameSet d.attributes.names

/-- A schema as JSON. -/
def toJson (d : Details) : Json :=
  .obj
    [("schema_key", d.key.toJson),
     ("description", .ofLoose? d.description),
     ("schema_state", .str d.state.word),
     ("schema_type", .str (Choice.word d.format)),
     ("validation_type", .str (Choice.word d.mode)),
     ("schema_meta", d.provenance.toJson),
     ("attributes", d.attributes.toJson)]

end Details

end SchemaRegistry
