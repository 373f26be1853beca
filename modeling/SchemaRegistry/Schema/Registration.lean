import SchemaRegistry.Schema.Attribute
import SchemaRegistry.Schema.Key
import SchemaRegistry.Schema.Lifecycle

/-!
# Requests to the registry

What a client sends to register a schema version, and to approve or reject one.
-/

namespace SchemaRegistry

/-- The limits of the name of a person. -/
def actorLimits : Limits := ⟨1, some 128⟩

/-- The limits of the description of a schema to be registered. -/
def descriptionLimits : Limits := ⟨0, some 2048⟩

/-- A new schema version to register. -/
structure Registration where
  key : Key
  description : Option (BoundedText descriptionLimits)
  format : Format
  mode : Mode
  attributes : AttributeSet
  createdBy : BoundedText actorLimits
deriving DecidableEq, Repr

namespace Registration

/-- Checks a registration. -/
def check (value : Json) : Checked Registration :=
  Checked.record .registration (fun fields =>
    Registration.mk <$> Checked.required "schema_key" Key.check fields
      <*> Checked.withDefault "description" none
        (Checked.nullable (Checked.bounded descriptionLimits)) fields
      <*> Checked.withDefault "schema_type" Format.json (Checked.choice Format) fields
      <*> Checked.withDefault "validation_type" Mode.matching (Checked.choice Mode) fields
      <*> Checked.required "attributes" AttributeSet.check fields
      <*> Checked.required "created_by" (Checked.bounded actorLimits) fields) value

/-- A registration as JSON. -/
def toJson (r : Registration) : Json :=
  .obj
    [("schema_key", r.key.toJson),
     ("description", .ofText? (r.description.map BoundedText.text)),
     ("schema_type", .str (Choice.word r.format)),
     ("validation_type", .str (Choice.word r.mode)),
     ("attributes", r.attributes.toJson),
     ("created_by", .str r.createdBy.text)]

end Registration

/-- Who approves or rejects a schema. -/
structure StateChange where
  updatedBy : BoundedText actorLimits
deriving DecidableEq, Repr

namespace StateChange

/-- Checks a state change. -/
def check (value : Json) : Checked StateChange :=
  Checked.record .stateChange (fun fields =>
    StateChange.mk <$> Checked.required "updated_by" (Checked.bounded actorLimits) fields) value

/-- A state change as JSON. -/
def toJson (c : StateChange) : Json := .obj [("updated_by", .str c.updatedBy.text)]

end StateChange

end SchemaRegistry
