import SchemaRegistry.Failure
import SchemaRegistry.Registry.Layout

/-!
# The revision of the database

The one revision of the database brings the table of schemas with its indexes; taking it back removes them
again. Both are lists of changes. `Storage` is what a database holds as far as changes and insertions can
tell: which tables there are, and which rows.
-/

namespace SchemaRegistry

/-- A change to a database. -/
inductive Change where
  | createTable (layout : TableLayout)
  | createIndex (index : ColumnGroup) (table : String)
  | dropIndex (name table : String)
  | dropTable (name : String)
  /-- Drops the type of a choice, if it is there. -/
  | dropChoice (name : String)
deriving DecidableEq, Repr

/-- A change that removes something, as JSON. A type is dropped over the connection at hand and only if it is
there. -/
def Change.toJson : Change → Json
  | createTable layout => .ofTexts ["create_table", layout.name]
  | createIndex index table => .ofTexts ["create_index", index.name, table]
  | dropIndex name table => .ofTexts ["drop_index", name, table]
  | dropTable name => .ofTexts ["drop_table", name]
  | dropChoice name => .arr [.str "drop_enum", .str name, .bool true, .bool true]

/-! ## The revision -/

/-- A step in the history of the database. -/
structure Revision where
  name : String
  /-- The revision before. -/
  previous : Option String
  upgrade : List Change
  /-- How the revision is taken back in a dialect of SQL. -/
  downgrade : String → List Change

namespace Revision

/-- The indexes of the table of schemas. -/
def indexes : List ColumnGroup :=
  [⟨"ix_schema_registry_id", ["id"]⟩, ⟨"ix_schema_registry_namespace", ["namespace"]⟩]

/-- The names of the types that a layout makes of its choices. -/
def choiceNames (layout : TableLayout) : List String :=
  layout.columns.filterMap fun column =>
    match column.type with
    | .choice name _ => some name
    | _ => none

/-- The revision that brings the table of schemas. It is taken back in the opposite order. The types of the
choices outlive the table where the dialect has types of its own for them. -/
def initial : Revision where
  name := "0001"
  previous := none
  upgrade :=
    .createTable .registry :: indexes.map fun index => .createIndex index TableLayout.registry.name
  downgrade dialect :=
    (indexes.reverse.map fun index => Change.dropIndex index.name TableLayout.registry.name) ++
      .dropTable TableLayout.registry.name ::
        if dialect = "postgresql" then (choiceNames .registry).reverse.map .dropChoice else []

/-- What a revision tells of itself: its name, the revision before, its branches and what it depends on. -/
def toJson (r : Revision) : Json := .arr [.str r.name, .ofText? r.previous, .null, .null]

end Revision

/-! ## Databases -/

/-- The values of a row by column. A column without a value is empty. -/
abbrev ColumnValues := List (String × String)

/-- A table in a database. -/
structure StoredTable where
  layout : TableLayout
  indexes : List ColumnGroup
  rows : List ColumnValues
deriving DecidableEq, Repr

namespace StoredTable

/-- Two rows agree in columns that no two rows share. An empty column agrees with none. -/
def clash (group : ColumnGroup) (a b : ColumnValues) : Bool :=
  group.columns.all fun name => (a.lookup name).isSome && a.lookup name == b.lookup name

/-- The row has a value wherever one is needed. -/
def isComplete (t : StoredTable) (row : ColumnValues) : Bool :=
  t.layout.columns.all fun c => c.nullable || c.supplied || (row.lookup c.name).isSome

/-- Inserts a row, if it is complete and agrees with no other in columns that no two rows share. -/
def insert (t : StoredTable) (row : ColumnValues) : Except Failure StoredTable :=
  if !t.isComplete row || t.layout.unique.any fun group => t.rows.any (clash group row) then
    .error .integrity
  else .ok { t with rows := t.rows ++ [row] }

/-- The groups ordered by name, as JSON. -/
def groups (gs : List ColumnGroup) : Json :=
  .arr <|
    (gs.mergeSort fun a b => !(b.name < a.name)).map fun g => .arr [.str g.name, .ofTexts g.columns]

/-- What a table is made of, as the fields of an answer. -/
def toFields (t : StoredTable) : List (String × Json) :=
  [("columns",
    .arr (t.layout.columns.map fun c => .arr [.str c.name, .str c.type.word, .bool c.nullable])),
   ("primary_key", .ofTexts t.layout.primaryKey),
   ("indexes", groups t.indexes),
   ("unique", groups t.layout.unique)]

end StoredTable

/-- A database. -/
structure Storage where
  tables : List StoredTable
deriving DecidableEq, Repr

namespace Storage

/-- The database without tables. -/
def empty : Storage := ⟨[]⟩

/-- The table with a name. -/
def table? (s : Storage) (name : String) : Option StoredTable :=
  s.tables.find? fun t => t.layout.name == name

/-- The database with the table of that name replaced. -/
def setTable (s : Storage) (new : StoredTable) : Storage :=
  ⟨s.tables.map fun t => if t.layout.name == new.layout.name then new else t⟩

/-- The database has an index of that name. -/
def hasIndex (s : Storage) (name : String) : Bool :=
  s.tables.any fun t => t.indexes.any fun index => index.name == name

/-- Makes a change. What is created must not be there, what is dropped must be. -/
def apply (s : Storage) : Change → Except Failure Storage
  | .createTable layout =>
    if (s.table? layout.name).isSome then .error .operational
    else .ok ⟨s.tables ++ [⟨layout, [], []⟩]⟩
  | .createIndex index table =>
    match s.table? table with
    | none => .error .operational
    | some t =>
      if s.hasIndex index.name then .error .operational
      else .ok (s.setTable { t with indexes := t.indexes ++ [index] })
  | .dropIndex name table =>
    match s.table? table with
    | none => .error .operational
    | some t =>
      if s.hasIndex name then
        .ok (s.setTable { t with indexes := t.indexes.filter fun index => index.name != name })
      else .error .operational
  | .dropTable name =>
    if (s.table? name).isSome then .ok ⟨s.tables.filter fun t => t.layout.name != name⟩
    else .error .operational
  | .dropChoice _ => .ok s

/-- Makes changes one after the other. If one fails, none is made. -/
def applyAll (s : Storage) (changes : List Change) : Except Failure Storage := changes.foldlM apply s

/-- Inserts a row into the table with a name. -/
def insert (s : Storage) (name : String) (row : ColumnValues) : Except Failure Storage :=
  match s.table? name with
  | none => .error .operational
  | some t => s.setTable <$> t.insert row

/-- The columns of a new row whose values are told, in order. -/
def toldColumns : List String := ["namespace", "schema_name", "version", "created_by"]

/-- Inserts the row of a schema without attributes. Values that are `none` stay empty; those beyond the
columns are ignored, but there must be one for each column. -/
def insertSchema (s : Storage) (values : List (Option String)) : Except Failure Storage :=
  if values.length < toldColumns.length then .error .unbound
  else
    let told := (toldColumns.zip values).filterMap fun (column, value) => value.map (column, ·)
    s.insert TableLayout.registry.name
      (told ++
        [("schema_state", "CREATED"), ("schema_type", "JSON"), ("validation_type", "MATCHING"),
         ("attributes", "[]")])

/-- The tables of a database, and what the table of schemas is made of, as JSON. -/
def toJson (s : Storage) : Json :=
  .obj <|
    ("tables", .ofTexts (s.tables.map fun t => t.layout.name)) ::
      ((s.table? TableLayout.registry.name).map StoredTable.toFields).getD []

end Storage

/-! ## Steps -/

/-- A step of somebody who looks after the database. -/
inductive MigrationStep where
  | upgrade
  | downgrade
  | info
  /-- A row of values, or what is given in the place of one. -/
  | insert (values : Json)

namespace MigrationStep

/-- A value as a column of text keeps it. -/
def cell : Json → Option String
  | .null => none
  | .bool b => some (if b then "1" else "0")
  | value => some value.plainText

/-- The values of a row. A text stands for its characters, an object for its names. -/
def valuesOf : Json → Except Failure (List (Option String))
  | .arr items => .ok (items.map cell)
  | .str text => .ok (text.toList.map fun c => some c.toString)
  | .obj fields => .ok (fields.map fun (name, _) => some name)
  | value => .error (.notIterable value.typeName)

/-- The step that a value names. -/
def ofJson : Json → MigrationStep
  | .str "upgrade" => upgrade
  | .str "downgrade" => downgrade
  | .str "info" => info
  | value => insert value

/-- The database after a step. -/
def run (step : MigrationStep) (s : Storage) : Except Failure Storage :=
  match step with
  | upgrade => s.applyAll Revision.initial.upgrade
  | downgrade => s.applyAll (Revision.initial.downgrade "sqlite")
  | info => .ok s
  | insert values =>
    match valuesOf values with
    | .ok values => s.insertSchema values
    | .error e => .error e

/-- The answer to a step that leads to the database `s`. -/
def answer (s : Storage) : MigrationStep → Json
  | info => Revision.initial.toJson
  | _ => s.toJson

/-- The answers to steps taken one after the other. A step that fails changes nothing. -/
def runAll : List MigrationStep → Storage → List (Except Failure Json)
  | [], _ => []
  | step :: rest, s =>
    match step.run s with
    | .ok after => .ok (step.answer after) :: runAll rest after
    | .error e => .error e :: runAll rest s

end MigrationStep

end SchemaRegistry
