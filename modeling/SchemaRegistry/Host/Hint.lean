import SchemaRegistry.Number.Shortest
import SchemaRegistry.Schema.Category

/-!
# Type hints

A hint says what a field of a host type holds. It is a class, a class with arguments, a union, a literal, a
new name for another hint, a hint with metadata, the mark of a class variable, or a value that is no type at
all. This module has the values that hints can be; `Hint.category` says what a field with a hint holds.
-/

namespace SchemaRegistry

/-! ## Classes as hints see them -/

/-- What a class is known to be. -/
inductive Trait where
  | enumeration
  /-- An enumeration whose members can be combined. -/
  | flags
  | boolean
  | integer
  | float
  | string
  | mapping
  | binary
  | collection
deriving DecidableEq, Repr

/-- The category of a class with these traits. The first that applies decides: an enumeration of whole
numbers is an enumeration, and a text is no collection. -/
def Trait.category (traits : List Trait) : Category :=
  if traits.contains .enumeration then .enumeration
  else if traits.contains .boolean then .boolean
  else if traits.contains .integer then .integer
  else if traits.contains .float then .double
  else if traits.contains .string then .string
  else if traits.contains .mapping then .mapLike
  else if traits.contains .binary then .other
  else if traits.contains .collection then .arrayLike
  else .other

/-- What makes a class: the class of the class. -/
inductive Maker where
  | ordinary
  | abstract
  | enumeration
  /-- The maker of the class that says that anything goes. -/
  | anything
  | protocol
  | typedDict
  | model
deriving DecidableEq, Repr

/-- The name of a maker. -/
def Maker.name : Maker → String
  | ordinary => "type"
  | abstract => "ABCMeta"
  | enumeration => "EnumType"
  | anything => "_AnyMeta"
  | protocol => "_ProtocolMeta"
  | typedDict => "_TypedDictMeta"
  | model => "ModelMetaclass"

/-- The name by which the maker is known as a class. -/
def Maker.className (m : Maker) : String := if m = .ordinary then "type" else "maker." ++ m.name

/-- The first maker is the second or a kind of it. -/
def Maker.isKindOf : Maker → Maker → Bool
  | _, .ordinary => true
  | .protocol, .abstract | .model, .abstract => true
  | a, b => a == b

/-- A class as a hint refers to it. -/
structure ClassRef where
  /-- Classes are told apart by number. -/
  id : Nat
  name : String
  /-- How failures name the class and its instances. -/
  typeName : String
  /-- How hints show the class: its module and its name there. -/
  shown : String
  maker : Maker
  traits : List Trait
deriving DecidableEq, Repr

namespace ClassRef

/-- The number of the class of all objects. -/
def objectId : Nat := 0

/-- The number of the class that says that anything goes. -/
def anyId : Nat := 1

/-- The class of `None`. -/
def noneType : ClassRef := ⟨2, "NoneType", "NoneType", "NoneType", .ordinary, []⟩

/-- The number of the base of classes that take arguments. -/
def genericId : Nat := 3

/-- The number of the base of protocols. -/
def protocolId : Nat := 4

/-- Anything is an instance of the class. -/
def isTop (c : ClassRef) : Bool := c.id == objectId || c.id == anyId

/-- The class as messages show it by itself. -/
def display (c : ClassRef) : String :=
  if c.traits.contains .enumeration && c.maker == .enumeration then
    "<" ++ (if c.traits.contains .flags then "flag" else "enum") ++ " '" ++ c.name ++ "'>"
  else if c.id == anyId then c.shown
  else "<class '" ++ c.shown ++ "'>"

end ClassRef

/-! ## Hints -/

/-- Hints that are neither classes nor values and mostly take arguments. -/
inductive SpecialForm where
  | classVar
  | final
  | union
  | optional
  | literal
  | noReturn
  | never
  | self
  | literalString
  | typeAlias
  | concatenate
  | typeGuard
  | unpack
  | required
  | notRequired
deriving DecidableEq, Repr

/-- The name of a special form. -/
def SpecialForm.name : SpecialForm → String
  | classVar => "ClassVar"
  | final => "Final"
  | union => "Union"
  | optional => "Optional"
  | literal => "Literal"
  | noReturn => "NoReturn"
  | never => "Never"
  | self => "Self"
  | literalString => "LiteralString"
  | typeAlias => "TypeAlias"
  | concatenate => "Concatenate"
  | typeGuard => "TypeGuard"
  | unpack => "Unpack"
  | required => "Required"
  | notRequired => "NotRequired"

/-- A hint, or any other value that can stand where a hint is expected. -/
inductive Hint where
  /-- The value `None`. -/
  | nothing
  | flag (value : Bool)
  | whole (value : Int)
  | real (value : Number.Binary64)
  | text (value : String)
  | ellipsis
  | sequence (items : List Hint)
  | tuple (items : List Hint)
  | set (items : List Hint)
  /-- A table: its entries are pairs of a key and its value. -/
  | dict (entries : List Hint)
  /-- A member of the enumeration of categories. It is also the text of its word. -/
  | category (c : Category)
  /-- A member of another enumeration. -/
  | member (of : ClassRef) (name : String) (value : Hint)
  /-- A class. If it passes for a new name of another hint, `supertype` is that hint. -/
  | cls (c : ClassRef) (supertype : Option Hint)
  /-- A class with arguments that behaves like the class. -/
  | applied (origin : ClassRef) (supertype : Option Hint) (args : List Hint)
  /-- A model with arguments: a class of its own, which has the number of the model and is known like it. -/
  | submodel (c : ClassRef) (supertype : Option Hint) (args : List Hint)
  /-- Another name for a class, under which it takes arguments. -/
  | named (name : String) (origin : ClassRef)
  /-- A class with arguments, perhaps under another name. -/
  | filled (name : Option String) (origin : ClassRef) (args : List Hint)
  | form (f : SpecialForm)
  | formed (f : SpecialForm) (args : List Hint)
  /-- Any of several hints. `bar` says how it is written. -/
  | union (bar : Bool) (members : List Hint)
  /-- One of some values. -/
  | literal (values : List Hint)
  /-- A new name for a hint. New names are told apart by number. -/
  | newType (id : Nat) (name : String) (of : Hint)
  /-- A hint with metadata. -/
  | annotated (base : Hint) (metadata : List Hint)
  /-- The mark of an argument that is no field. Such marks are told apart by number. -/
  | initVar (id : Nat) (of : Hint)
  /-- A variable for a hint. Variables are told apart by number. -/
  | typeVar (id : Nat) (name : String)
  /-- A text that stands for a hint to be looked up later. -/
  | forward (text : String)
  | function (name : String)
  /-- The places of some parts in a row: where they start, where they stop and how far they are apart. -/
  | slice (start stop step : Hint)
  /-- Anything else, by the name of its type and as messages show it. -/
  | other (typeName shown : String)
deriving Repr

namespace Hint

instance : Inhabited Hint := ⟨nothing⟩

/-- A value of which only the type is known. -/
def ofType (typeName : String) : Hint := other typeName ""

/-- The class of `None` as a hint. -/
def noneType : Hint := cls ClassRef.noneType none

/-- The hint is the class of `None`. -/
def isNoneType : Hint → Bool
  | cls c _ => c.id == ClassRef.noneType.id
  | _ => false

/-- The name of the type of a value. -/
def typeName : Hint → String
  | nothing => "NoneType"
  | flag _ => "bool"
  | whole _ => "int"
  | real _ => "float"
  | text _ => "str"
  | ellipsis => "ellipsis"
  | sequence _ => "list"
  | tuple _ => "tuple"
  | set _ => "set"
  | dict _ => "dict"
  | category _ => "FieldCategory"
  | member of .. => of.typeName
  | cls c _ | submodel c .. => c.maker.name
  | applied .. => "types.GenericAlias"
  | named name _ =>
    if name = "Callable" then "_CallableType" else if name = "Tuple" then "_TupleType"
    else "_SpecialGenericAlias"
  | filled (some "Callable") _ _ => "_CallableGenericAlias"
  | filled .. => "_GenericAlias"
  | form .literal => "_LiteralSpecialForm"
  | form _ => "_SpecialForm"
  | formed .concatenate _ => "_ConcatenateGenericAlias"
  | formed .unpack _ => "_UnpackGenericAlias"
  | formed .. => "_GenericAlias"
  | union true _ => "types.UnionType"
  | union false _ => "_UnionGenericAlias"
  | literal _ => "_LiteralGenericAlias"
  | newType .. => "NewType"
  | annotated .. => "_AnnotatedAlias"
  | initVar .. => "InitVar"
  | typeVar .. => "TypeVar"
  | forward _ => "ForwardRef"
  | function _ => "function"
  | slice .. => "slice"
  | other typeName _ => typeName

/-! ## Categories -/

/-- The first category among metadata. -/
def markedCategory? : List Hint → Option Category
  | [] => none
  | category c :: _ => some c
  | _ :: rest => markedCategory? rest

mutual

/-- The category of a field with this hint. -/
def inferred : Hint → Category
  | cls c supertype =>
    if c.isTop then .object
    else
      match supertype with
      | some hint => inferred hint
      | none => Trait.category c.traits
  | applied origin supertype _ | submodel origin supertype _ =>
    match supertype with
    | some hint => inferred hint
    | none => Trait.category origin.traits
  | named _ origin | filled _ origin _ => Trait.category origin.traits
  | union _ members =>
    match inferredPresent members with
    | [c] => c
    | _ => .other
  | literal _ => .enumeration
  | newType _ _ of => inferred of
  | annotated base metadata => (markedCategory? metadata).getD (inferred base)
  | _ => .other

/-- The categories of the members of a union besides the class of `None`. -/
def inferredPresent : List Hint → List Category
  | [] => []
  | h :: rest => if h.isNoneType then inferredPresent rest else inferred h :: inferredPresent rest

end

/-- The hint marks a variable of the class itself. -/
def isClassVar : Hint → Bool
  | form .classVar | formed .classVar _ => true
  | _ => false


end Hint

end SchemaRegistry
