import SchemaRegistry.Conformance.Check
import SchemaRegistry.Registry.Table
import SchemaRegistry.Time.Clock

/-!
# The registry

The operations on the table: registering a schema, deciding on it, reading and listing schemas, and judging
host types against them. An operation that changes the table first looks its schema up; between that and the
change another writer may act, which is what `Interlude` stands for. The change itself makes sure that
nothing came in between: a key is taken only once, and a decision is made only once.

If the other writer fails, so does the operation. A registration that was broken off in this way is not
forgotten: its draft stays with the session, and the next change that the session completes inserts it.
-/

namespace SchemaRegistry

/-- What an operation leaves behind: its answer, the table, the log and the drafts of its session. -/
structure Outcome (α : Type) where
  answer : Except Failure α
  table : Table
  logs : List LogRecord
  pending : List Table.Draft

/-- What other writers left behind between two steps of an operation, and whether they failed. -/
structure Interruption where
  table : Table
  logs : List LogRecord := []
  failure : Option Failure := none

/-- What other writers do between two steps of an operation. -/
abbrev Interlude := Table → Interruption

/-- Nothing happens between two steps. -/
def Interlude.none : Interlude := fun t => { table := t }

/-- Where an operation starts: the table, and the drafts of its session. -/
structure Stage where
  table : Table
  pending : List Table.Draft := []

namespace Registry

/-- An operation that changes nothing. -/
def reading {α : Type} (s : Stage) (answer : Except Failure α) : Outcome α :=
  ⟨answer, s.table, [], s.pending⟩

/-- The schema with a key. -/
def get (t : Table) (k : Key) : Except Failure Details := do (← t.require k).details

/-! ## Registering -/

/-- The record of a registration. -/
def registeredRecord (r : Registration) : LogRecord :=
  ⟨.info, .registry, "Registered schema " ++ r.key.reference ++ " by " ++ r.createdBy.text⟩

/-- The failure to register a key that is taken. -/
def taken (k : Key) : Failure := .service (.alreadyExists k.reference)

/-- The second step of registering: the insertion of the drafts of the session, the last of which is that of
the registration. If one of them cannot be inserted, all are dropped. -/
def insertNew (t : Table) (drafts : List Table.Draft) (r : Registration) : Outcome Details :=
  match t.insertAll? drafts with
  | none => ⟨.error (taken r.key), t, [], []⟩
  | some t => ⟨get t r.key, t, [registeredRecord r], []⟩

/-- Registers a schema. -/
def create (s : Stage) (now : Time.Reading) (between : Interlude) (r : Registration) : Outcome Details :=
  match s.table.find? r.key, now with
  | .error e, _ => reading s (.error e)
  | .ok (some _), _ => reading s (.error (taken r.key))
  | .ok none, none => reading s (.error .clockOutOfRange)
  | .ok none, some now =>
    let drafts := s.pending ++ [⟨r, now⟩]
    let rival := between s.table
    match rival.failure with
    | some e => ⟨.error e, rival.table, rival.logs, drafts⟩
    | none =>
      let outcome := insertNew rival.table drafts r
      { outcome with logs := rival.logs ++ outcome.logs }

/-! ## Deciding -/

/-- The record of a decision. -/
def movedRecord (k : Key) (d : Decision) (updatedBy : String) : LogRecord :=
  ⟨.info, .registry,
    "Schema " ++ k.reference ++ " moved CREATED -> " ++ d.state.word ++ " by " ++ updatedBy⟩

/-- The failure to decide on a schema that is not open: it names the state in which the schema is. -/
def closed (t : Table) (k : Key) (d : Decision) : Failure :=
  match t.require k with
  | .error e => e
  | .ok r => .service (.invalidTransition k.reference r.state.word d.state.word)

/-- The second step of a decision: the conditional change of the row with a number, and with it the
insertion of the drafts of the session. If one of them cannot be inserted, nothing is changed. -/
def decideOn (s : Stage) (now : Time.DateTime) (k : Key) (id : Int) (d : Decision)
    (updatedBy : String) : Outcome Details :=
  match s.table.decide? id d updatedBy now with
  | none => ⟨.error (closed s.table k d), s.table, [], []⟩
  | some t =>
    match t.insertAll? s.pending with
    | none => ⟨.error .integrity, s.table, [], []⟩
    | some t =>
      match t.rowById? id with
      | none => ⟨.error .operational, t, [], []⟩
      | some r =>
        match r.load with
        | .error e => ⟨.error e, t, [], []⟩
        | .ok r => ⟨r.details, t, [movedRecord k d updatedBy], []⟩

/-- Decides on a schema. -/
def decide (s : Stage) (now : Time.Reading) (between : Interlude) (k : Key) (d : Decision)
    (updatedBy : String) : Outcome Details :=
  match s.table.require k, now with
  | .error e, _ => reading s (.error e)
  | .ok _, none => reading s (.error .clockOutOfRange)
  | .ok r, some now =>
    let rival := between s.table
    match rival.failure with
    | some e => ⟨.error e, rival.table, rival.logs, s.pending⟩
    | none =>
      let outcome := decideOn ⟨rival.table, s.pending⟩ now k r.row.id d updatedBy
      { outcome with logs := rival.logs ++ outcome.logs }

/-! ## Reading -/

/-- The schemas of a namespace and a state, in the order of their keys. An empty namespace is none. -/
def list (t : Table) (space : Option String) (state : Option State) :
    Except Failure (List Details) := do
  (← t.select space state).mapM LoadedRow.details

/-- A schema by its reference and state. -/
def summary (d : Details) : String := d.reference ++ " " ++ d.state.word

/-- The stored text of the attributes of a schema. -/
def storedAttributes (t : Table) (k : Key) : Except Failure String := do
  return (← t.require k).row.attributes

/-- Judges the fields of a host type against a schema. -/
def validate (s : Stage) (k : Key) (fields : List HostField) (failFast : Bool) : Outcome Verdict :=
  match get s.table k with
  | .error e => reading s (.error e)
  | .ok d =>
    let (verdict, logs) := Conformance.validate d fields failFast
    ⟨.ok verdict, s.table, logs, s.pending⟩

end Registry

end SchemaRegistry
