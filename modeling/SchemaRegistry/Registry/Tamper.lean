import SchemaRegistry.Number.Numeral
import SchemaRegistry.Registry.Table

/-!
# Changes behind the registry's back

The columns of a row can be set to any text. Columns go by their names in capitals or small letters, and the
number of a row goes by three more names. The table still keeps its keys distinct and its required columns
filled, and a column that it does not have cannot be set.
-/

namespace SchemaRegistry

/-- Further names of the column that holds the number of a row. -/
def numberNames : List String := ["rowid", "oid", "_rowid_"]

/-- The column that goes by a name. -/
def columnOf? (name : String) : Option String :=
  let small := name.map Char.toLower
  if numberNames.contains small then some "id"
  else if TableLayout.registry.columnNames.contains small then some small
  else none

namespace Row

/-- The row with a column set to a text or emptied. -/
def setColumn (r : Row) (name : String) (value : Option String) : Except Failure Row :=
  match name, value with
  | "id", some text =>
    match (Number.Numeral.read? text).bind Number.Numeral.word? with
    | some id => .ok { r with id }
    | none => .error .integrity
  | "namespace", some text => .ok { r with space := text }
  | "schema_name", some text => .ok { r with name := text }
  | "version", some text => .ok { r with version := text }
  | "description", value => .ok { r with description := value }
  | "schema_state", some text => .ok { r with state := .ofWord text }
  | "schema_type", some text => .ok { r with format := .ofWord text }
  | "validation_type", some text => .ok { r with mode := .ofWord text }
  | "attributes", some text => .ok { r with attributes := text }
  | "created_by", some text => .ok { r with createdBy := text }
  | "created_at", some text => .ok { r with createdAt := .raw text }
  | "updated_by", value => .ok { r with updatedBy := value }
  | "updated_at", value => .ok { r with updatedAt := value.map .raw }
  | _, _ => .error .integrity

/-- The row with several columns set, in order. -/
def setColumns (r : Row) : List (String × Option String) → Except Failure Row
  | [] => .ok r
  | (name, value) :: rest =>
    match r.setColumn name value with
    | .error e => .error e
    | .ok r => r.setColumns rest

end Row

namespace Table

/-- No two rows have the same key or the same number. -/
def hasDistinctKeys (t : Table) : Bool :=
  decide ((t.rows.map Row.keyParts).Nodup ∧ (t.rows.map Row.id).Nodup)

/-- Sets columns of the row with a key. Answers how many rows were changed. -/
def tamper (t : Table) (k : Key) (columns : List (String × Option String)) :
    Except Failure (Nat × Table) :=
  let named := columns.filterMap fun (name, value) => (columnOf? name).map (·, value)
  if columns.isEmpty || named.length < columns.length then .error .operational
  else
    match t.rowOf? k with
    | none => .ok (0, t)
    | some r =>
      match r.setColumns named with
      | .error e => .error e
      | .ok changed =>
        let t : Table := ⟨t.rows.map fun other => if other.hasKey k then changed else other⟩
        if t.hasDistinctKeys then .ok (1, t) else .error .integrity

end Table

end SchemaRegistry
