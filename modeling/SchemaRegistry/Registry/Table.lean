import SchemaRegistry.Registry.Row

/-!
# The table

The table holds the rows in the order in which they were inserted. No two rows have the same key: a row whose
key is taken is not inserted. Each function here is one step that other writers see as a whole.
-/

namespace SchemaRegistry

/-- The table of the registry. -/
structure Table where
  rows : List Row
deriving DecidableEq, Repr

namespace Table

/-- The table without rows. -/
def empty : Table := ⟨[]⟩

/-! ## Finding rows -/

/-- The row with a key. -/
def rowOf? (t : Table) (k : Key) : Option Row := t.rows.find? (·.hasKey k)

/-- The row with a number. -/
def rowById? (t : Table) (id : Int) : Option Row := t.rows.find? fun r => r.id == id

/-- Reads the row with a key. -/
def find? (t : Table) (k : Key) : Except Failure (Option LoadedRow) :=
  match t.rowOf? k with
  | none => .ok none
  | some r => some <$> r.load

/-- Reads the row with a key, which must be there. -/
def require (t : Table) (k : Key) : Except Failure LoadedRow := do
  match ← t.find? k with
  | some r => return r
  | none => throw (.service (.notFound k.reference))

/-- The parts of a key come before those of another: the first that differ decide. -/
def precedes (a b : String × String × String) : Bool :=
  a.1 < b.1 || (a.1 == b.1 && (a.2.1 < b.2.1 || (a.2.1 == b.2.1 && a.2.2 < b.2.2)))

/-- Puts a row into its place among rows ordered by key. -/
def insertByKey (r : Row) : List Row → List Row
  | [] => [r]
  | head :: rest =>
    if precedes r.keyParts head.keyParts then r :: head :: rest else head :: insertByKey r rest

/-- The rows in the order of their keys. -/
def sorted (rows : List Row) : List Row := rows.foldr insertByKey []

/-- The row is one of a namespace, if one is given, and in a state, if one is given. -/
def selects (space : Option String) (state : Option State) (r : Row) : Bool :=
  (match space with
    | some space => space.isEmpty || r.space == space
    | none => true) &&
  match state with
  | some state => r.state == .known state
  | none => true

/-- Reads the rows of a namespace and a state, in the order of their keys. -/
def select (t : Table) (space : Option String) (state : Option State) :
    Except Failure (List LoadedRow) :=
  (sorted (t.rows.filter (selects space state))).mapM Row.load

/-! ## Changing rows -/

/-- The first number from `n` on that is none of `taken`, found in at most `tries` steps. -/
def freeFrom (taken : List Int) (n : Int) : Nat → Int
  | 0 => n
  | tries + 1 => if taken.contains n then freeFrom taken (n + 1) tries else n

/-- A number that no row has: one more than the greatest, or the first that is free if that is no word of 64
bits. -/
def nextId (t : Table) : Int :=
  let taken := t.rows.map Row.id
  match taken with
  | [] => 1
  | first :: rest =>
    let greatest := rest.foldl max first
    if greatest + 1 < Number.wordBound then greatest + 1 else freeFrom taken 1 taken.length

/-- A schema that is to be inserted: its registration and the time of it. -/
structure Draft where
  registration : Registration
  createdAt : Time.DateTime

/-- The row of a new schema. -/
def newRow (id : Int) (d : Draft) : Row where
  id := id
  space := d.registration.key.space.text
  name := d.registration.key.name.text
  version := d.registration.key.version.text
  description := d.registration.description.map BoundedText.text
  state := .known .created
  format := .known d.registration.format
  mode := .known d.registration.mode
  attributes := d.registration.attributes.stored
  createdBy := d.registration.createdBy.text
  createdAt := .ofTime d.createdAt
  updatedBy := none
  updatedAt := none

/-- Inserts the row of a new schema, unless its key is taken. -/
def insert? (t : Table) (d : Draft) : Option Table :=
  if (t.rowOf? d.registration.key).isSome then none else some ⟨t.rows ++ [newRow t.nextId d]⟩

/-- Inserts the rows of new schemas in order, all of them or none. -/
def insertAll? (t : Table) : List Draft → Option Table
  | [] => some t
  | d :: rest => (t.insert? d).bind fun t => t.insertAll? rest

/-- The row after a decision. -/
def decidedRow (d : Decision) (updatedBy : String) (now : Time.DateTime) (r : Row) : Row :=
  { r with
    state := .known d.state
    updatedBy := some updatedBy
    updatedAt := some (.ofTime now) }

/-- The row has a number and is in the state that decisions start from. -/
def isOpen (id : Int) (r : Row) : Bool := r.id == id && r.state == .known .created

/-- Decides on the row with a number, if it is in the state that decisions start from. -/
def decide? (t : Table) (id : Int) (d : Decision) (updatedBy : String) (now : Time.DateTime) :
    Option Table :=
  if t.rows.any (isOpen id) then
    some ⟨t.rows.map fun r => if isOpen id r then decidedRow d updatedBy now r else r⟩
  else none

end Table

end SchemaRegistry
