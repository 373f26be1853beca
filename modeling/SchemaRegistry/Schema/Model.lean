/-!
# Models

Each record that is read from JSON has a title, by which messages name it, and its fields in the order in
which they are checked and written.
-/

namespace SchemaRegistry

/-- The records that are read from JSON. -/
inductive Model where
  | key
  | variant
  | hostField
  | hostType
  | stateChange
  | registration
  | provenance
  | details
deriving DecidableEq, Repr

namespace Model

/-- The title of a model. Attributes go by the names of their variants. -/
def title : Model → String
  | key => "SchemaKey"
  | variant => "SchemaAttribute"
  | hostField => "HostField"
  | hostType => "HostTypeRequest"
  | stateChange => "StateChangeRequest"
  | registration => "CreateSchemaRequest"
  | provenance => "SchemaMeta"
  | details => "SchemaDetails"

/-- Records of the model cannot be changed once built. Requests can. -/
def frozen : Model → Bool
  | hostType | stateChange | registration => false
  | key | variant | hostField | provenance | details => true

/-- The names of the fields of a request, in order. -/
def fieldNames : Model → List String
  | key => ["namespace", "schema_name", "version"]
  | variant => ["name", "description", "optional", "type"]
  | hostField => ["name", "category"]
  | hostType => ["fields", "fail_fast"]
  | stateChange => ["updated_by"]
  | registration =>
    ["schema_key", "description", "schema_type", "validation_type", "attributes", "created_by"]
  | provenance => ["created_by", "created_at", "updated_by", "updated_at"]
  | details =>
    ["schema_key", "description", "schema_state", "schema_type", "validation_type", "schema_meta",
      "attributes"]

end Model

end SchemaRegistry
