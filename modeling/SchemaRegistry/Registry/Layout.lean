import SchemaRegistry.Schema.Lifecycle

/-!
# The layout of the table

The columns of the table, its keys and its indexes. A choice is stored as its word in a column that is as wide
as the longest of its words.
-/

namespace SchemaRegistry

/-- The type of a column. -/
inductive ColumnType where
  | integer
  /-- Text of at most `width` characters. -/
  | bounded (width : Nat)
  | text
  /-- A closed choice, which goes by a name and has these words. -/
  | choice (name : String) (words : List String)
  | time
deriving DecidableEq, Repr

/-- The type of a column in a table definition. -/
def ColumnType.word : ColumnType → String
  | integer => "INTEGER"
  | bounded width => "VARCHAR(" ++ toString width ++ ")"
  | text => "TEXT"
  | choice _ words =>
    "VARCHAR(" ++ toString (words.foldl (fun width w => max width w.length) 0) ++ ")"
  | time => "DATETIME"

/-- A column of a table. -/
structure Column where
  name : String
  type : ColumnType
  /-- The column may be empty. -/
  nullable : Bool := false
  /-- The database supplies the value of a row that brings none. -/
  supplied : Bool := false
deriving DecidableEq, Repr

/-- Columns that go together under a name: an index, or a set of columns that no two rows share. -/
structure ColumnGroup where
  name : String
  columns : List String
deriving DecidableEq, Repr

/-- What a table is made of. -/
structure TableLayout where
  name : String
  columns : List Column
  primaryKey : List String
  /-- The columns in which no two rows agree. -/
  unique : List ColumnGroup
deriving DecidableEq, Repr

/-- A choice as a column type. -/
def ColumnType.ofChoice (name : String) (α : Type) [Choice α] : ColumnType :=
  choice name (Choice.words α)

/-- The layout of the table of schemas. -/
def TableLayout.registry : TableLayout where
  name := "schema_registry"
  columns :=
    [{ name := "id", type := .integer, supplied := true },
     { name := "namespace", type := .bounded 128 },
     { name := "schema_name", type := .bounded 128 },
     { name := "version", type := .bounded 128 },
     { name := "description", type := .text, nullable := true },
     { name := "schema_state", type := .ofChoice "schema_state_enum" State },
     { name := "schema_type", type := .ofChoice "schema_type_enum" Format },
     { name := "validation_type", type := .ofChoice "schema_validation_type_enum" Mode },
     { name := "attributes", type := .text },
     { name := "created_by", type := .bounded 128 },
     { name := "created_at", type := .time, supplied := true },
     { name := "updated_by", type := .bounded 128, nullable := true },
     { name := "updated_at", type := .time, nullable := true }]
  primaryKey := ["id"]
  unique := [⟨"uq_schema_registry_key", ["namespace", "schema_name", "version"]⟩]

/-- The names of the columns, in order. -/
def TableLayout.columnNames (t : TableLayout) : List String := t.columns.map Column.name

end SchemaRegistry
