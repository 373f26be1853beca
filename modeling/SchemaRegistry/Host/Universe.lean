import SchemaRegistry.Failure
import SchemaRegistry.Host.Display
import SchemaRegistry.Host.Linearization

/-!
# Classes

A universe holds the classes that hints can refer to. Each class knows its bases, the row of its ancestors,
its own members and annotations, and what it is known to be. What a class inherits is looked up along its
row, the nearest first.
-/

namespace SchemaRegistry

/-- An annotation of a class. -/
inductive Annotation where
  /-- A hint. A text is evaluated when the fields are read. -/
  | hint (h : Hint)
  /-- A text whose evaluation fails. -/
  | failing (exception : ExceptionClass) (message : String)
deriving Repr

/-- The key of an annotation in the table of a class. A name in the body of a class is a text, but the table may have
any keys. -/
inductive AnnotationKey where
  | text (name : LooseText)
  | value (key : Hint)
deriving Repr

namespace AnnotationKey

instance : Coe String AnnotationKey := ⟨fun name => text name⟩

/-- A value as a key. -/
def ofHint (key : Hint) : AnnotationKey :=
  match key.text? with
  | some name => name
  | none => value key

/-- The key as a value. -/
def hint : AnnotationKey → Hint
  | text name => (name.text?.map Hint.text).getD (.ofType "str")
  | value key => key

/-- The two are one key. -/
def same : AnnotationKey → AnnotationKey → Bool
  | text a, text b => a == b
  | value a, value b => a.same b
  | _, _ => false

/-- The key as part of a message. -/
def shown : AnnotationKey → LooseText
  | text name => name
  | value key => key.display

end AnnotationKey

/-- The annotations of a class. -/
inductive Annotations where
  | table (entries : List (AnnotationKey × Annotation))
  /-- A value in place of annotations. -/
  | misused (h : Hint)
deriving Repr

/-- A field of a record class: whether it has a default, and whether it counts when one is built. -/
structure DataField where
  name : LooseText
  hasDefault : Bool
  counts : Bool
deriving DecidableEq, Repr

/-- A class. -/
structure HostClass where
  ref : ClassRef
  /-- The name with those of the classes and functions around it. -/
  qualifiedName : String
  /-- The name of the module, unless the class says something else about it. -/
  moduleName : Hint
  annotations : Annotations
  members : List (String × Hint)
  /-- The class itself and its ancestors, nearest first. -/
  lineage : List Nat
  bases : List Nat
  /-- What the class is known to be because its ancestors are, whatever its members are. -/
  heritage : List Trait
  /-- The ancestor that decides how instances are laid out. -/
  layout : Nat
  /-- Instances of its subclasses are laid out anew. -/
  grows : Bool
  /-- The class takes no subclasses. -/
  isFinal : Bool
  isProtocol : Bool
  /-- The variables that arguments are put in for. -/
  parameters : List Hint
  /-- The same for a model, which also has those of the model that it is built on. -/
  modelParameters : List Hint := []
  /-- The members of an enumeration. -/
  enumerated : List (String × Hint)
  /-- The class of the values of an enumeration. -/
  dataType : Option Nat
  /-- The fields of a record class. -/
  record : Option (List DataField)
deriving Repr

/-- The classes that are known, the latest first. -/
structure Universe where
  classes : List HostClass
  /-- The next free number for a class, a new name or a variable. -/
  next : Nat

namespace Universe

/-- No class at all. -/
def empty : Universe := ⟨[], 0⟩

/-- The class with a number. -/
def find? (u : Universe) (id : Nat) : Option HostClass := u.classes.find? fun c => c.ref.id == id

/-- The classes in a row of numbers. -/
def row (u : Universe) (ids : List Nat) : List HostClass := ids.filterMap u.find?

/-- The row of a class. -/
def lineage (u : Universe) (c : ClassRef) : List HostClass :=
  match u.find? c.id with
  | some found => u.row found.lineage
  | none => []

/-- The class descends from another one. -/
def descends (u : Universe) (c : ClassRef) (ancestor : Nat) : Bool :=
  ((u.find? c.id).map fun found => found.lineage.contains ancestor).getD false

/-- The members of an enumeration: their names and values. -/
def enumerated (u : Universe) (c : ClassRef) : List (String × Hint) :=
  ((u.find? c.id).map (·.enumerated)).getD []

/-- A member of an enumeration. Those of the enumeration of categories are the categories. -/
def memberOf (c : ClassRef) (name : String) : Hint → Hint
  | .category category => .category category
  | value => .member c name value

/-! ## Members -/

/-- The nearest member of a name in a row of classes. -/
def inherited? (name : String) (row : List HostClass) : Option Hint :=
  row.findSome? fun c => c.members.lookup name

/-- The member of a class by a name, its own or that of the nearest ancestor. -/
def member? (u : Universe) (c : ClassRef) (name : String) : Option Hint :=
  inherited? name (u.lineage c)

/-- The member by which a class passes for a new name of a hint. -/
def supertypeMember : String := "__supertype__"

/-- The hint that the first class of a row passes for. -/
def supertypeIn? (row : List HostClass) : Option Hint :=
  match inherited? supertypeMember row with
  | some .nothing | none => none
  | some h => some h

/-- The hint that a class passes for. -/
def supertype? (u : Universe) (c : ClassRef) : Option Hint := supertypeIn? (u.lineage c)

/-- The hint of a class. -/
def hintOf (u : Universe) (c : ClassRef) : Hint := .cls c (u.supertype? c)

/-! ## What a class is known to be -/

/-- The methods that make any class a collection. -/
def collectionMethods : List String := ["__len__", "__iter__", "__contains__"]

/-- The nearest member of the name is there and is not `None`. -/
def provides (row : List (List (String × Hint))) (name : String) : Bool :=
  let found : Option Hint := row.findSome? fun members => members.lookup name
  match found with
  | some .nothing | none => false
  | some _ => true

/-- The traits of a class with this heritage: it is a collection too if the methods are there. -/
def traitsOf (heritage : List Trait) (row : List (List (String × Hint))) : List Trait :=
  if collectionMethods.all (provides row) then (heritage ++ [Trait.collection]).eraseDups else heritage

end Universe

end SchemaRegistry
