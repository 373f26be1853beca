import SchemaRegistry.Schema.Scalar
import SchemaRegistry.Text.Case

/-!
# Host fields

A host type is known to the registry by its fields, each reduced to a name and a category.
-/

namespace SchemaRegistry

/-- The limits of the name of a host field. -/
def fieldNameLimits : Limits := ⟨1, none⟩

/-- A field of a host type. -/
structure HostField where
  name : BoundedText fieldNameLimits
  category : Category
deriving DecidableEq, Repr

namespace HostField

/-- The name in upper case, under which attributes and fields are compared. -/
def folded (f : HostField) : String := Text.upper f.name.text

/-- Checks a field. -/
def check (value : Json) : Checked HostField :=
  Checked.record .hostField (fun fields =>
    HostField.mk <$> Checked.required "name" (Checked.bounded fieldNameLimits) fields
      <*> Checked.required "category" (Checked.choice Category) fields) value

/-- A field as JSON. -/
def toJson (f : HostField) : Json :=
  .obj [("name", .str f.name.text), ("category", .str f.category.word)]

end HostField

/-- The field inventory of a host type, to be validated against a schema. -/
structure HostType where
  fields : List HostField
  /-- Report the first incompatible attribute only. -/
  failFast : Bool
deriving DecidableEq, Repr

namespace HostType

/-- Checks a host type. -/
def check (value : Json) : Checked HostType :=
  Checked.record .hostType (fun fields =>
    HostType.mk <$> Checked.required "fields" (Checked.list HostField.check) fields
      <*> Checked.withDefault "fail_fast" false Checked.flag fields) value

/-- A host type as JSON. -/
def toJson (t : HostType) : Json :=
  .obj [("fields", .arr (t.fields.map HostField.toJson)), ("fail_fast", .bool t.failFast)]

end HostType

end SchemaRegistry
