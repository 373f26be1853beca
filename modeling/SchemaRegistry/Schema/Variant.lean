import SchemaRegistry.Failure
import SchemaRegistry.Schema.Attribute
import SchemaRegistry.Schema.Lifecycle

/-!
# Variants of attributes

The eleven kinds of attribute are variants of an abstract one, which cannot be built. A further variant can
be declared if it ends up with a category, its own or that of the variant it extends.
-/

namespace SchemaRegistry

/-- The member of a choice that a value names. The choice goes by the name `family`. -/
def Choice.find {α : Type} [Choice α] (family : String) (value : Json) : Except Failure α :=
  let member? : Option α :=
    match value with
    | .str word => Choice.ofWord? word
    | _ => none
  match member? with
  | some member => .ok member
  | none => .error (.noMember value family)

/-- The variant of a kind given by its word. -/
def Kind.find (value : Json) : Except Failure Kind := Choice.find "AttributeType" value

/-- The category given by its word. -/
def Category.find (value : Json) : Except Failure Category := Choice.find "FieldCategory" value

/-- The state given by its word. -/
def State.find (value : Json) : Except Failure State := Choice.find "SchemaState" value

/-- What a new variant says about its category. -/
inductive Declared where
  /-- Nothing: the category is that of the variant it extends. -/
  | inherited
  | category (c : Category)
  /-- Something that is no category. -/
  | junk
deriving DecidableEq, Repr

/-- A name that a variant can have: one without zero characters. -/
def checkVariantName (name : String) : Except Failure Unit :=
  if name.toList.any fun c => c.toNat == 0 then .error .zeroInName else .ok ()

/-- The category of a variant called `name` that extends the variant of `parent`, or the abstract attribute. -/
def Declared.resolve (name : String) (parent : Option Kind) (declared : Declared) :
    Except Failure Category := do
  checkVariantName name
  match declared, parent with
  | category c, _ => return c
  | inherited, some kind => return kind.required
  | _, _ => throw (.noCategory name)

/-- Building the abstract attribute fails, for a fault in its fields or because it is abstract. -/
def Attribute.abstractFailure (value : Json) : Failure :=
  let fields : Checked Unit :=
    Checked.record .variant (fun fields =>
      (fun _ _ _ => ()) <$> Checked.required "name" (Checked.trimmed nameLimits) fields
        <*> Checked.withDefault "description" none
          (Checked.nullable (Checked.trimmed attributeDescriptionLimits)) fields
        <*> Checked.withDefault "optional" false Checked.flag fields) value
  match fields with
  | .accepted _ => .abstract
  | .refused why => .refused why

end SchemaRegistry
