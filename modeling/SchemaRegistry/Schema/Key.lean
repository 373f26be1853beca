import SchemaRegistry.Schema.Scalar

/-!
# Keys

A schema is addressed by a namespace, a name and a version. Log lines and errors name it by its reference,
the three parts joined by colons.
-/

namespace SchemaRegistry

/-- The limits of a part of a key. -/
def keyPartLimits : Limits := ⟨1, some 128⟩

/-- A part of a key. -/
abbrev KeyPart := TrimmedText keyPartLimits

/-- The key of a schema version. -/
structure Key where
  space : KeyPart
  name : KeyPart
  version : KeyPart
deriving DecidableEq, Repr

namespace Key

/-- The reference of a schema. -/
def reference (k : Key) : String := k.space.text ++ ":" ++ k.name.text ++ ":" ++ k.version.text

/-- Checks the fields of a key. -/
def checkFields (fields : Checked.Fields) : Checked Key :=
  Key.mk <$> Checked.required "namespace" (Checked.trimmed keyPartLimits) fields
    <*> Checked.required "schema_name" (Checked.trimmed keyPartLimits) fields
    <*> Checked.required "version" (Checked.trimmed keyPartLimits) fields

/-- Checks a key. -/
def check (value : Json) : Checked Key := Checked.record .key checkFields value

/-- The fields of a key with these parts. -/
def fieldsOf (space name version : String) : Checked.Fields :=
  [("namespace", .str space), ("schema_name", .str name), ("version", .str version)]

/-- The key with these parts, each trimmed. -/
def ofParts (space name version : String) : Checked Key := checkFields (fieldsOf space name version)

/-- A key as JSON. -/
def toJson (k : Key) : Json := .obj (fieldsOf k.space.text k.name.text k.version.text)

end Key

end SchemaRegistry
