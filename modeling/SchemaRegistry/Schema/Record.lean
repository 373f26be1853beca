import SchemaRegistry.Failure
import SchemaRegistry.Host.Field
import SchemaRegistry.Json.Exchange
import SchemaRegistry.Json.Writer
import SchemaRegistry.Schema.Details
import SchemaRegistry.Schema.Registration

/-!
# Records of every model

What all models have in common: a record of each is built from JSON and written as JSON, frozen or not, and
those that are frozen can be compared.
-/

namespace SchemaRegistry

/-- A record of one of the models that are read on their own. -/
inductive Record where
  | key (k : Key)
  | attributeOf (a : Attribute)
  | hostField (f : HostField)
  | hostType (t : HostType)
  | stateChange (c : StateChange)
  | registration (r : Registration)
  | details (d : Details)

namespace Record

/-- Reads a record of a model. -/
def check (model : Model) (value : Json) : Checked Record :=
  match model with
  | .key => key <$> Key.check value
  | .variant => attributeOf <$> Attribute.check value
  | .hostField => hostField <$> HostField.check value
  | .hostType => hostType <$> HostType.check value
  | .stateChange => stateChange <$> StateChange.check value
  | .registration => registration <$> Registration.check value
  | .provenance | .details => details <$> Details.check value

/-- The model of a record. -/
def model : Record → Model
  | key _ => .key
  | attributeOf _ => .variant
  | hostField _ => .hostField
  | hostType _ => .hostType
  | stateChange _ => .stateChange
  | registration _ => .registration
  | details _ => .details

/-- A record as JSON. -/
def toJson : Record → Json
  | key k => k.toJson
  | attributeOf a => a.toJson
  | hostField f => f.toJson
  | hostType t => t.toJson
  | stateChange c => c.toJson
  | registration r => r.toJson
  | details d => d.toJson

/-- The name of the type of a record: attributes are of their variant. -/
def title : Record → String
  | attributeOf a => a.kind.variantName
  | r => r.model.title

/-- The fields of a record with those of its own in `fields`, in that order. -/
def withFields (r : Record) (fields : List (String × Json)) : Json :=
  match r.toJson with
  | .obj own => .obj (fields.filter fun (name, _) => own.any fun (known, _) => known == name)
  | other => other

/-- The record as JSON after something of it that begins with an underscore is set. It leaves the fields as
they are, unless it is all of them at once. -/
def assignHidden (r : Record) (name : String) (value : Json) : Except Failure Json :=
  match name, value with
  | "__dict__", .obj fields => .ok (r.withFields fields)
  | "__dict__", value => .error (.notFields value.typeName)
  | "__class__", value => .error (.notRecordType value.typeName)
  | "__weakref__", _ => .error (.readOnly r.title name)
  | _, _ => .ok r.toJson

/-- Names that attributes have in common. -/
def commonNames : Record → List String
  | attributeOf _ => ["required_category"]
  | _ => []

/-- What can be asked of every record, but not set. -/
def computedNames : List String := ["model_extra", "model_fields_set"]

/-- The record as JSON after one of its fields is set to a value, which is not checked. -/
def assign (r : Record) (name : String) (value : Json) : Except Failure Json :=
  if r.commonNames.contains name then .error (.commonField r.title name)
  else if name.toList.head? = some '_' then r.assignHidden name value
  else if r.model.frozen then .error (.refused [⟨[.name name], .frozen⟩])
  else if computedNames.contains name then .error (.noSetter r.title name)
  else if r.model.fieldNames.contains name then
    match r.toJson with
    | .obj fields => .ok (.obj (Json.setField name value fields))
    | other => .ok other
  else .error (.noField r.model name)

/-- Two records are equal, if records of their models can be compared. -/
def same : Record → Record → Except Failure Bool
  | key a, key b => .ok (a == b)
  | attributeOf a, attributeOf b => .ok (a == b)
  | hostField a, hostField b => .ok (a == b)
  | details a, details b => .ok (a.same b)
  | a, b => if a.model.frozen then .ok false else .error (.unhashable b.model)

end Record

/-! ## Schemas as text -/

/-- Reads the text of a schema. -/
def Details.ofText (text : String) : Except Failure Details :=
  match Json.Exchange.read text with
  | .ok value => (Details.check value).run
  | .error wording => .error (.refused [⟨[], .notJson wording⟩])

/-- The text of a schema. -/
def Details.text (d : Details) : String := d.toJson.compact

/-- The text of a schema, unless writing it fails: halves of characters have no bytes. -/
def Details.text? (d : Details) : Option String := d.toJson.compact?

end SchemaRegistry
