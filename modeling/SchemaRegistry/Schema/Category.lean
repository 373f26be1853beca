import SchemaRegistry.Schema.Choice

/-!
# Categories and kinds

A host field has a category. An attribute has a kind, and its kind requires a category. A field can carry an
attribute if its category is the required one, or if the attribute requires an object, which anything is.
-/

namespace SchemaRegistry

/-- The category of a host field. -/
inductive Category where
  | arrayLike
  | boolean
  | byte
  | double
  | enumeration
  | float
  | integer
  | long
  | mapLike
  | object
  | string
  | other
deriving DecidableEq, Repr

instance : Choice Category where
  members :=
    [.arrayLike, .boolean, .byte, .double, .enumeration, .float, .integer, .long, .mapLike, .object,
      .string, .other]
  word
    | .arrayLike => "ARRAY_LIKE"
    | .boolean => "BOOLEAN"
    | .byte => "BYTE"
    | .double => "DOUBLE"
    | .enumeration => "ENUM"
    | .float => "FLOAT"
    | .integer => "INTEGER"
    | .long => "LONG"
    | .mapLike => "MAP_LIKE"
    | .object => "OBJECT"
    | .string => "STRING"
    | .other => "OTHER"
  mem_members a := by cases a <;> decide
  word_injective a b := by cases a <;> cases b <;> decide

/-- The word of a category. -/
def Category.word (c : Category) : String := Choice.word c

/-- A field of category `c` can carry a value of category `target`. -/
def Category.isAssignableTo (c target : Category) : Bool := target = .object || c = target

/-- The kind of an attribute. -/
inductive Kind where
  | array
  | boolean
  | byte
  | double
  | enumeration
  | float
  | integer
  | long
  | map
  | object
  | string
deriving DecidableEq, Repr

instance : Choice Kind where
  members :=
    [.array, .boolean, .byte, .double, .enumeration, .float, .integer, .long, .map, .object, .string]
  word
    | .array => "ARRAY"
    | .boolean => "BOOLEAN"
    | .byte => "BYTE"
    | .double => "DOUBLE"
    | .enumeration => "ENUM"
    | .float => "FLOAT"
    | .integer => "INTEGER"
    | .long => "LONG"
    | .map => "MAP"
    | .object => "OBJECT"
    | .string => "STRING"
  mem_members a := by cases a <;> decide
  word_injective a b := by cases a <;> cases b <;> decide

namespace Kind

/-- The word of a kind. -/
def word (k : Kind) : String := Choice.word k

/-- The category that a kind requires of the host field. -/
def required : Kind → Category
  | array => .arrayLike
  | boolean => .boolean
  | byte => .byte
  | double => .double
  | enumeration => .enumeration
  | float => .float
  | integer => .integer
  | long => .long
  | map => .mapLike
  | object => .object
  | string => .string

/-- A field of category `c` can carry an attribute of this kind. -/
def accepts (k : Kind) (c : Category) : Bool := c.isAssignableTo k.required

/-- The name under which the variant for a kind is known. -/
def variantName : Kind → String
  | array => "ArrayAttribute"
  | boolean => "BooleanAttribute"
  | byte => "ByteAttribute"
  | double => "DoubleAttribute"
  | enumeration => "EnumAttribute"
  | float => "FloatAttribute"
  | integer => "IntegerAttribute"
  | long => "LongAttribute"
  | map => "MapAttribute"
  | object => "ObjectAttribute"
  | string => "StringAttribute"

/-- The kind with a variant name. -/
def ofVariantName? (name : String) : Option Kind :=
  (Choice.members : List Kind).find? fun k => k.variantName == name

end Kind

end SchemaRegistry
