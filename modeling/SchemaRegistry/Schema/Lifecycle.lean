import SchemaRegistry.Schema.Choice

/-!
# Lifecycle, format and mode

A schema is created and then approved or rejected, once and for all. Its format says what it describes, its
mode how its attributes are compared with the fields of a host type.
-/

namespace SchemaRegistry

/-- Where a schema stands in its life. -/
inductive State where
  | created
  | approved
  | rejected
deriving DecidableEq, Repr

instance : Choice State where
  members := [.created, .approved, .rejected]
  word
    | .created => "CREATED"
    | .approved => "APPROVED"
    | .rejected => "REJECTED"
  mem_members a := by cases a <;> decide
  word_injective a b := by cases a <;> cases b <;> decide

/-- The word of a state. -/
def State.word (s : State) : String := Choice.word s

/-- The two decisions on a created schema. -/
inductive Decision where
  | approve
  | reject
deriving DecidableEq, Repr

/-- The state that a decision leads to. -/
def Decision.state : Decision → State
  | approve => .approved
  | reject => .rejected

/-- The format that a schema describes. -/
inductive Format where
  | json
  | avro
  | proto
deriving DecidableEq, Repr

instance : Choice Format where
  members := [.json, .avro, .proto]
  word
    | .json => "JSON"
    | .avro => "AVRO"
    | .proto => "PROTO"
  mem_members a := by cases a <;> decide
  word_injective a b := by cases a <;> cases b <;> decide

/-- How attribute names and field names are compared: `strict` wants the same names, `matching` allows
further fields. -/
inductive Mode where
  | strict
  | matching
deriving DecidableEq, Repr

instance : Choice Mode where
  members := [.strict, .matching]
  word
    | .strict => "STRICT"
    | .matching => "MATCHING"
  mem_members a := by cases a <;> decide
  word_injective a b := by cases a <;> cases b <;> decide

end SchemaRegistry
