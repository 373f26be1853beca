import SchemaRegistry.Host.Arguments
import SchemaRegistry.Host.MethodTable

/-!
# Members of values

What stands behind a value and a dot: the name of a class, its ancestors, its own and inherited members, the
class and the arguments of a hint, the methods of values. `Universe.memberAt` answers with the member or the
failure that there is none.
-/

namespace SchemaRegistry

namespace Universe

open Hint

/-! ## Classes of values -/

/-- The class of a value. -/
def classOf (h : Hint) : Hint :=
  match h with
  | .member of .. => .cls of none
  | h =>
    match Catalogue.class? (match h with | .cls c _ | .submodel c _ _ => c.maker.className | h => h.typeName) with
    | some c => .cls c none
    | none => ofType "type"

/-! ## Names in the body of a class -/

/-- Modules with classes whose instances have no table for members of their own. -/
def bareHomes : List String := ["builtins", "collections.abc", "abc"]

/-- Instances of the class have no table for members of their own. -/
def isBare (c : HostClass) : Bool :=
  (bareHomes.contains ((c.moduleName.text?).getD "") && c.ref.shown ≠ "BaseException") ||
    c.ref.id == ClassRef.genericId || c.ref.id == ClassRef.protocolId

/-- The names that are known in the body of a class besides its members. -/
def bodyNames (u : Universe) (c : HostClass) : List (String × Hint) :=
  let ancestors := u.row c.lineage.tail
  let bare := ancestors.all isBare
  let annotated : Bool :=
    match c.annotations with
    | .table entries => !entries.isEmpty
    | .misused _ => true
  [("__module__", c.moduleName), ("__doc__", .nothing)] ++
    (if bare then [("__dict__", ofType "getset_descriptor")] else []) ++
    (if bare && ancestors.all fun a => !a.grows then [("__weakref__", ofType "getset_descriptor")] else []) ++
    (if annotated then [("__annotations__", ofType "dict")] else [])

/-! ## Members of classes -/

/-- The annotations of a class as a table. -/
def annotationTable (c : HostClass) : Hint :=
  match c.annotations with
  | .misused h => h
  | .table entries =>
    .dict (entries.map fun (key, annotation) =>
      .tuple [key.hint, match annotation with | .hint h => h | .failing _ message => .text message])

/-- What every class knows about itself. -/
def classFact? (u : Universe) (c : HostClass) (name : String) : Option Hint :=
  match name with
  | "__name__" => some (.text c.ref.name)
  | "__qualname__" => some (.text c.qualifiedName)
  | "__class__" => some (classOf (.cls c.ref none))
  | "__mro__" => some (.tuple (c.lineage.map u.hintById))
  | "__bases__" => some (.tuple (c.bases.map u.hintById))
  | "__base__" => c.bases.head?.map u.hintById
  | "__module__" => some ((inherited? "__module__" (u.row c.lineage)).getD c.moduleName)
  | "__dict__" => some (ofType "mappingproxy")
  | "__annotations__" => if c.moduleName.text? = some "builtins" then none else some (annotationTable c)
  | _ => none

/-- The failure of a class without a member of a name. -/
def noClassMember (c : ClassRef) (name : String) : Failure :=
  .raised "AttributeError"
    (if c.maker = .enumeration || c.maker = .model then name
    else "type object " ++ Text.quoted c.typeName ++ " has no attribute " ++ Text.quoted name)

/-- A member of a class. -/
def classMember (u : Universe) (c : ClassRef) (name : String) : Except Failure Hint :=
  match u.find? c.id with
  | none => .error (noClassMember c name)
  | some found =>
    let own := u.row found.lineage
    let facts := (u.classFact? found name).orElse fun _ =>
      ((u.enumerated c).lookup name).map (Universe.memberOf c name)
    match facts.orElse fun _ => inherited? name own with
    | some h => .ok h
    | none =>
      let isThere := MethodTable.inClasses name || MethodTable.has c.maker.name name ||
        own.any (fun a => MethodTable.has a.ref.name name || ((u.bodyNames a).lookup name).isSome)
      if isThere then .ok (ofType "method_descriptor") else .error (noClassMember c name)

/-! ## Members of other values -/

/-- The failure of a value without a member of a name. -/
def noMember (h : Hint) (name : String) : Failure :=
  .raised "AttributeError"
    (Text.quoted h.typeName ++ " object has no attribute " ++ Text.quoted name)

/-- The name stands between two underscores on each side. -/
def isSpecial (name : String) : Bool :=
  "__".toList.isPrefixOf name.toList && "__".toList.isPrefixOf name.toList.reverse

/-- What a hint with arguments, or another value that is made of others, knows about itself. -/
def knownParts (u : Universe) (h : Hint) : List (String × Hint) :=
  match h with
  | .applied origin _ args | .filled _ origin args =>
    [("__origin__", u.hintOf origin), ("__args__", .tuple args)]
  | .submodel c _ _ =>
    [("__name__", .text c.name), ("__qualname__", .text c.name), ("__base__", u.hintById c.id),
      ("__bases__", .tuple [u.hintById c.id]), ("__annotations__", .dict []),
      ("__mro__", .tuple (h :: (u.lineage c).map fun a => u.hintOf a.ref))]
  | .named name origin => [("__origin__", u.hintOf origin), ("_name", .text name)]
  | .formed f args => [("__origin__", .form f), ("__args__", .tuple args)]
  | .union true members => [("__args__", .tuple members)]
  | .union false members => [("__origin__", .form .union), ("__args__", .tuple members)]
  | .literal values => [("__origin__", .form .literal), ("__args__", .tuple values)]
  | .annotated base metadata =>
    [("__origin__", base), ("__args__", .tuple [base]), ("__metadata__", .tuple metadata)]
  | .newType _ name of => [("__supertype__", of), ("__name__", .text name), ("__qualname__", .text name)]
  | .typeVar _ name => [("__name__", .text name)]
  | .forward name => [("__forward_arg__", .text name)]
  | .function name => [("__name__", .text name), ("__qualname__", .text name)]
  | .form f => [("__name__", .text f.name), ("__qualname__", .text f.name), ("_name", .text f.name)]
  | .initVar _ of => [("type", of)]
  | .category c => [("name", .text c.word), ("value", .text c.word)]
  | .member _ name value => [("name", .text name), ("value", value)]
  | .slice start stop step => [("start", start), ("stop", stop), ("step", step)]
  | _ => []

/-- What a hint knows about itself under a name: one of its parts, how it is called, or its variables. -/
def hintFact? (u : Universe) (h : Hint) (name : String) : Option Hint :=
  ((u.knownParts h).lookup name).orElse fun _ =>
    if name = "__name__" || name = "__qualname__" then
      match h with
      | .filled (some name) _ _ => some (.text name)
      | .filled none origin _ => some (.text origin.name)
      | .formed f _ => some (.text f.name)
      | .named name _ => some (.text name)
      | .union false _ => some (.text SpecialForm.union.name)
      | .literal _ => some (.text SpecialForm.literal.name)
      | .annotated .. => some (.text "Annotated")
      | _ => none
    else if name = "__parameters__" then
      match h with
      | .applied .. | .filled .. | .formed .. | .union .. | .literal _ | .annotated .. =>
        some (.tuple (variablesOf h))
      | _ => none
    else none

/-- The hint of a module's name. -/
def moduleMember (moduleName name : String) : Except Failure Hint :=
  match Catalogue.moduleMember? moduleName name with
  | some h => .ok h
  | none =>
    .error (.raised "AttributeError"
      ("module " ++ Text.quoted moduleName ++ " has no attribute " ++ Text.quoted name))

/-- The member of a value by a name. A hint with arguments has the members of its class, except for special
ones. -/
def memberAt (u : Universe) (h : Hint) (name : String) : Except Failure Hint :=
  match u.hintFact? h name with
  | some found => .ok found
  | none =>
    let bare : Failure := .raised "AttributeError" name
    let common : Except Failure Hint :=
      if name = "__class__" then .ok (classOf h)
      else if MethodTable.inObjects name then .ok (ofType "method-wrapper")
      else .error bare
    match h with
    | .cls c _ | .submodel c _ _ => u.classMember c name
    | .applied origin _ _ => u.classMember origin name
    | .named _ origin | .filled _ origin _ => if isSpecial name then common else u.classMember origin name
    | .annotated (.cls c _) _ => if isSpecial name then common else u.classMember c name
    | .form _ | .formed .. | .union false _ | .literal _ | .annotated .. => common
    | .other "module" moduleName => moduleMember moduleName name
    | .category _ | .member .. =>
      if name = "__class__" then .ok (classOf h)
      else if MethodTable.inObjects name || MethodTable.has "Enum" name ||
          (h.text?.isSome && MethodTable.has "str" name) then
        .ok (ofType "method")
      else .error (noMember h name)
    | h =>
      if name = "__class__" then .ok (classOf h)
      else
        let typeName := if h.typeName = "bool" then "int" else h.typeName
        if MethodTable.inObjects name || MethodTable.has typeName name then .ok (ofType "method")
        else .error (noMember h name)

end Universe

end SchemaRegistry
