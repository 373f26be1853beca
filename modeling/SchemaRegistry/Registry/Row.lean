import SchemaRegistry.Failure
import SchemaRegistry.Json.Reader
import SchemaRegistry.Json.Writer
import SchemaRegistry.Registry.Layout
import SchemaRegistry.Schema.Details
import SchemaRegistry.Schema.Registration
import SchemaRegistry.Time.Stored

/-!
# Rows

A row of the registry holds one schema version. The registry itself writes only members of the choices and
points in time; a row may have been changed behind its back, so that other texts stand there. Loading a row
makes sure that none does, and the details of a row are checked like any others.
-/

namespace SchemaRegistry

/-- A stored member of a choice, or a text that is none. -/
inductive Stored (α : Type) where
  | known (value : α)
  | unknown (text : String)
deriving DecidableEq, Repr

namespace Stored

variable {α : Type}

/-- The stored word. -/
def ofWord [Choice α] (word : String) : Stored α :=
  match Choice.ofWord? word with
  | some value => known value
  | none => unknown word

/-- The member that is stored. -/
def load : Stored α → Except Failure α
  | known value => .ok value
  | unknown _ => .error .unknownStoredWord

end Stored

/-- A stored point in time, or a text put in its place. -/
inductive StoredTime where
  /-- The fields of a point in time; the offset is not kept. -/
  | clock (t : Time.DateTime)
  | raw (text : String)
deriving DecidableEq, Repr

namespace StoredTime

/-- What is kept of a point in time in UTC: its fields. -/
def ofTime (t : Time.DateTime) : StoredTime := clock t.dropOffset

/-- The point in time that is stored. -/
def load : StoredTime → Except Failure Time.DateTime
  | clock t => .ok t
  | raw text =>
    match Time.ofStored text with
    | .ok t => .ok t
    | .error fault => .error (.notTime fault text)

end StoredTime

/-- A row of the registry. -/
structure Row where
  id : Int
  space : String
  name : String
  version : String
  description : Option String
  state : Stored State
  format : Stored Format
  mode : Stored Mode
  /-- The attributes as JSON text. -/
  attributes : String
  createdBy : String
  createdAt : StoredTime
  updatedBy : Option String
  updatedAt : Option StoredTime
deriving DecidableEq, Repr

/-- A row whose columns have all been read. -/
structure LoadedRow where
  row : Row
  state : State
  format : Format
  mode : Mode
  createdAt : Time.DateTime
  updatedAt : Option Time.DateTime
deriving DecidableEq, Repr

namespace Row

/-- The row has the key. -/
def hasKey (r : Row) (k : Key) : Bool :=
  r.space == k.space.text && r.name == k.name.text && r.version == k.version.text

/-- The parts of the key of a row. -/
def keyParts (r : Row) : String × String × String := (r.space, r.name, r.version)

/-- Reads the columns of a row. The first that cannot be read fails the row. -/
def load (r : Row) : Except Failure LoadedRow := do
  let state ← r.state.load
  let format ← r.format.load
  let mode ← r.mode.load
  let createdAt ← r.createdAt.load
  let updatedAt ←
    match r.updatedAt with
    | none => pure none
    | some t => some <$> t.load
  return ⟨r, state, format, mode, createdAt, updatedAt⟩

end Row

/-- The text of a list of attributes, as it is stored. -/
def AttributeSet.stored (s : AttributeSet) : String := s.toJson.spaced

/-- Details put together from stored parts: the parts of the key and the attributes are checked. -/
def Details.assemble (space name version : String) (description : Option LooseText) (state : State)
    (format : Format) (mode : Mode) (provenance : Provenance) (attributes : Json) : Checked Details :=
  (fun key attributes => ⟨key, description, state, format, mode, provenance, attributes⟩) <$>
    (Key.ofParts space name version).under (.name "schema_key")
    <*> (AttributeSet.check attributes).under (.name "attributes")

/-- The details of a loaded row. -/
def LoadedRow.details (r : LoadedRow) : Except Failure Details :=
  match Json.read r.row.attributes with
  | .error fault => .error (.ofJson fault)
  | .ok attributes =>
    (Details.assemble r.row.space r.row.name r.row.version (r.row.description.map .ofText) r.state r.format
      r.mode ⟨r.row.createdBy, r.createdAt, r.row.updatedBy.map .ofText, r.updatedAt⟩ attributes).run

/-! ## Rows that were never stored -/

/-- Names that a row takes beside those of its columns: what rows have in common, which a value given with
the row hides. -/
def Row.furtherNames : List String :=
  ["metadata", "registry", "mro"] ++
    ["abstractmethods", "annotations", "bases", "basicsize", "call", "delattr", "dict", "dictoffset",
     "dir", "doc", "eq", "flags", "format", "ge", "getattribute", "getstate", "gt", "hash", "init",
     "init_subclass", "instancecheck", "itemsize", "le", "lt", "mapper", "module", "name", "ne", "new",
     "or", "prepare", "qualname", "reduce", "reduce_ex", "repr", "ror", "setattr", "sizeof", "str",
     "subclasscheck", "subclasses", "subclasshook", "table", "table_args", "tablename",
     "text_signature", "weakrefoffset"].map (fun word => "__" ++ word ++ "__") ++
    ["_sa_class_manager", "_sa_registry"]

/-- The details of a row given by its columns. Absent columns count as `null`. -/
def Details.ofColumns (columns : Checked.Fields) : Except Failure Details :=
  let column (name : String) : Json := (Json.lookup name columns).getD .null
  let fields (names : List (String × String)) : Json :=
    .obj (names.map fun (field, name) => (field, column name))
  let known := TableLayout.registry.columnNames ++ Row.furtherNames
  match columns.find? fun (name, _) => !known.contains name with
  | some (name, _) => .error (.noColumn name)
  | none =>
    match column "attributes" with
    | .str text =>
      match Json.read text with
      | .error fault => .error (.ofJson fault)
      | .ok attributes =>
        let value :=
          Json.obj
            [("schema_key",
              fields
                [("namespace", "namespace"), ("schema_name", "schema_name"), ("version", "version")]),
             ("description", column "description"),
             ("schema_state", column "schema_state"),
             ("schema_type", column "schema_type"),
             ("validation_type", column "validation_type"),
             ("schema_meta",
              fields
                [("created_by", "created_by"), ("created_at", "created_at"),
                 ("updated_by", "updated_by"), ("updated_at", "updated_at")]),
             ("attributes", attributes)]
        (Details.check value).run
    | value => .error (.notJsonText value.typeName)

end SchemaRegistry
