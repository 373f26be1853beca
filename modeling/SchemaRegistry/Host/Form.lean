import SchemaRegistry.Host.FieldName
import SchemaRegistry.Host.Workspace
import SchemaRegistry.Json.Basic

/-!
# Descriptions of hints and classes

A host type is described by the classes that its module declares and by the forms of its hints. Building a
form gives the hint that it stands for, or fails as the hint would; forms that declare a class or a new name
enter it into the universe.
-/

namespace SchemaRegistry

/-- A piece of metadata. -/
inductive Metadatum where
  /-- The category of a word. -/
  | category (word : Json)
  | plain (value : Json)

/-- The form of a hint. -/
inductive Form where
  /-- A known name. -/
  | named (name : String)
  /-- A class that was declared. -/
  | declared (name : String)
  /-- A form with arguments. -/
  | generic (head : Form) (args : List Form)
  /-- Functions from some arguments to a result. -/
  | callable (args : List Form) (result : Form)
  | optional (of : Form)
  | union (members : List Form)
  /-- A union written with bars. -/
  | bars (members : List Form)
  | literal (values : List Json)
  | newType (name : String) (of : Form)
  | annotated (of : Form) (metadata : List Metadatum)
  | classVar (of : Option Form)
  | final (of : Form)
  /-- The mark of an argument that is no field. -/
  | initVar (of : Form)
  | typeVar (name : String) (bound : Option Form)
  /-- An enumeration that is made by calling its base with the name and the members. -/
  | enumeration (name : String) (base : Form) (members : Json)
  /-- A tuple with a part that has a name. -/
  | row (name : String)
  /-- A table with a known key. -/
  | table (name : String)
  /-- A class declared on the spot, with the names of its methods, which do nothing, and the hint it passes for. -/
  | newClass (name : String) (bases : List Form) (methods : List String) (supertype : Option Form)
  /-- A value that is no type. -/
  | value (v : Json)

/-- The form of an annotation. -/
inductive AnnotationForm where
  | hint (form : Form)
  /-- A text to be evaluated. -/
  | written (text : String)
  | failing (exception : ExceptionClass) (message : String)

/-- The form of the key of an annotation. -/
inductive KeyForm where
  | text (name : LooseText)
  | value (form : Form)

instance : Coe String KeyForm := ⟨fun name => .text name⟩

/-- The form of a class. -/
structure ClassForm where
  name : String
  qualifiedName : String
  moduleName : String
  bases : List Form
  annotations : List (KeyForm × AnnotationForm)
  /-- Class attributes. -/
  attributes : List (String × Form)
  /-- The names of the methods, which do nothing. -/
  methods : List String
  /-- The class is made a record class. -/
  isRecord : Bool

/-- A step that may declare classes and may fail. -/
abbrev Building (α : Type) := StateT Workspace (Except Failure) α

namespace Building

/-- The next number for a class or a new name. -/
def fresh : Building Nat := do
  let w ← get
  set { w with classes := { w.classes with next := w.classes.next + 1 } }
  return w.classes.next

/-- Enters a class that is declared in some way. -/
def enter (declare : Universe → Except Failure (HostClass × Universe)) : Building HostClass := do
  let w ← get
  let (c, classes) ← declare w.classes
  set { w with classes }
  return c

/-- Enters a class that no module knows. -/
def hintOf (declare : Universe → Except Failure (HostClass × Universe)) : Building Hint := do
  let c ← enter declare
  return (← get).classes.hintOf c.ref

end Building

/-! ## Values -/

namespace Hint

mutual

/-- A value as a hint. -/
def ofJson : Json → Hint
  | .null => nothing
  | .bool value => flag value
  | .int value => whole value
  | .float value => real value
  | .str value => text value
  | .illFormed _ => ofType "str"
  | .arr items => sequence (ofJsonAll items)
  | .obj fields => dict (ofFields fields)

/-- Several values as hints. -/
def ofJsonAll : List Json → List Hint
  | [] => []
  | value :: rest => ofJson value :: ofJsonAll rest

/-- The entries of a table. -/
def ofFields : List (String × Json) → List Hint
  | [] => []
  | (name, value) :: rest => tuple [text name, ofJson value] :: ofFields rest

end

/-- A piece of metadata as a hint. -/
def ofMetadatum : Metadatum → Except Failure Hint
  | .category (.str word) =>
    match (Choice.ofWord? word : Option Category) with
    | some c => .ok (category c)
    | none => .error (.noMember (.str word) "FieldCategory")
  | .category value => .error (.noMember value "FieldCategory")
  | .plain value => .ok (ofJson value)

end Hint

/-! ## Enumerations -/

namespace Enumeration

/-- The failure of something that is no pair of a name and a value. -/
def notPair (value : Json) : Failure :=
  match value with
  | .arr items =>
    .raised "ValueError"
      (if items.length < 2 then
        "not enough values to unpack (expected 2, got " ++ toString items.length ++ ")"
      else "too many values to unpack (expected 2)")
  | value => .ofType ("cannot unpack non-iterable " ++ (Hint.ofJson value).typeName ++ " object")

/-- A pair of a name and a value. -/
def pair : Json → Except Failure (String × Hint)
  | .arr [.str name, value] => .ok (name, .ofJson value)
  | .str text =>
    match text.toList with
    | [a, b] => .ok (a.toString, .text b.toString)
    | chars => .error (notPair (.arr (chars.map fun _ => .null)))
  | value => .error (notPair value)

/-- Names as members with the values that they get in turn. -/
def numbered (traits : List Trait) (isText : Bool) (names : List String) : List (String × Hint) :=
  (names.zipIdx).map fun (name, index) => (name, generated traits isText index name)

/-- The members that a description of them amounts to: names alone, or names and values. -/
def described (traits : List Trait) (isText : Bool) (members : Json) :
    Except Failure (List (String × Hint)) :=
  let textOf : Json → Option String := fun | .str s => some s | _ => none
  match members with
  | .str text =>
    .ok (numbered traits isText
      (Text.words (String.ofList (text.toList.map fun c => if c = ',' then ' ' else c))))
  | .obj fields => .ok (fields.map fun (name, value) => (name, .ofJson value))
  | .arr (.str name :: rest) => .ok (numbered traits isText (name :: rest.filterMap textOf))
  | .arr items => items.mapM pair
  | value => .error (.notIterable (Hint.ofJson value).typeName)

end Enumeration

namespace Universe

/-- The failure of a class that is called with a name and members but makes something else of them, if it
refuses them. -/
def membersRefused? (u : Universe) (c : ClassRef) (members : Json) : Option Failure :=
  let typeName := (Hint.ofJson members).typeName
  let isKind (name : String) : Bool := (u.lineage c).any fun a => a.ref.shown = name
  let encoded (name : String) : Failure :=
    .ofType (name ++ "() argument 'encoding' must be str, not " ++ typeName)
  if isKind "bool" then some (.ofType "bool expected at most 1 argument, got 2")
  else if isKind "int" then
    some (.ofType (Text.quoted typeName ++ " object cannot be interpreted as an integer"))
  else if isKind "str" then
    some (if typeName = "str" then .ofType "decoding str is not supported" else encoded "str")
  else if c.shown = "bytes" || c.shown = "bytearray" then some (encoded c.shown)
  else if ["list", "tuple", "dict", "set", "frozenset", "float"].any isKind then
    some (.ofType (c.name ++ " expected at most 1 argument, got 2"))
  else if c.id = ClassRef.noneType.id then some (.ofType "NoneType takes no arguments")
  else if c.id = ClassRef.objectId || u.takesNothing c then
    some (.ofType (c.name ++ "() takes no arguments"))
  else none

/-- What a class makes of a name and the members of an enumeration. -/
def enumerateClass (c : ClassRef) (name : String) (members : Json) : Building Hint := do
  let u := (← get).classes
  if c.maker = .enumeration then
    let _ ← Enumeration.checkBases u name [c]
    let isText := (u.lineage c).any fun a => a.ref.shown = "enum.StrEnum"
    let members ← Enumeration.described c.traits isText members
    Building.hintOf fun u => u.declare
      { name, bases := [u.hintOf c], annotations := .table []
        body := ("__module__", .text Hint.spotModule) :: members }
  else
    match u.membersRefused? c members with
    | some failure => throw failure
    | none => return .other c.typeName (c.name ++ (Hint.tuple [.text name, .ofJson members]).display)

/-- What a call of a base with the name and the members of an enumeration results in. -/
def enumerate (base : Hint) (name : String) (members : Json) : Building Hint := do
  match base with
  | .cls c _ | .annotated (.cls c _) _ => enumerateClass c name members
  | base => (← get).classes.call base [.text name, .ofJson members]

end Universe

/-! ## Hints of forms -/

namespace Form

/-- The members that a row class has besides its parts. -/
def rowMembers : List (String × Hint) := [
  ("__module__", .text Hint.spotModule), ("__slots__", .tuple []), ("__new__", .function "__new__"),
  ("x", .ofType "_tuplegetter")]

mutual

/-- The hint of a form. -/
def build : Form → Building Hint
  | named name => Catalogue.find name
  | declared name => do
    match (← get).declared? name with
    | some h => return h
    | none => throw (.raised "KeyError" (Text.quoted name))
  | generic head args => do
    let args ← buildAll args
    let head ← build head
    (← get).classes.item head (match args with | [h] => h | args => .tuple args)
  | callable args result => do
    let args ← buildAll args
    let result ← build result
    (← get).classes.item (← Catalogue.find "typing.Callable") (.tuple [.sequence args, result])
  | optional of => do (← build of).optional
  | union members => do Hint.unionOf (← buildAll members)
  | bars members => do Hint.eitherOf (← buildAll members)
  | literal values => return Hint.literalOf (values.map Hint.ofJson)
  | newType name of => do
    let of ← build of
    return .newType (← Building.fresh) name of
  | annotated of metadata => do
    let of ← build of
    Hint.annotate (of :: (← metadata.mapM fun m => (Hint.ofMetadatum m : Except Failure Hint)))
  | classVar none => return .form .classVar
  | classVar (some of) => do Hint.formItem .classVar (← build of)
  | final of => do Hint.formItem .final (← build of)
  | initVar of => do
    let of ← build of
    return .initVar (← Building.fresh) of
  | typeVar name none => return .typeVar (← Building.fresh) name
  | typeVar name (some bound) => do
    let h ← build bound
    if h.isTrue then
      let _ ← h.check "Bound must be a type."
    return .typeVar (← Building.fresh) name
  | enumeration name base members => do Universe.enumerate (← build base) name members
  | row name => do
    Universe.checkPart name
    Building.hintOf fun u => u.declare
      { name, bases := [Catalogue.classHint "tuple"], annotations := .table [], body := rowMembers }
  | table name =>
    Building.hintOf fun u => u.declareTable
      { name, bases := []
        annotations := .table [("x", .hint (Catalogue.classHint "int"))]
        body := [("__module__", .text Hint.spotModule)] } [] false []
  | newClass name bases methods supertype => do
    let bases ← buildAll bases
    let supertype ← buildOption supertype
    let body := methods.map (fun m => (m, Hint.function m)) ++
      (supertype.map fun h => (Universe.supertypeMember, h)).toList
    Building.hintOf fun u => u.declare
      { name, bases, annotations := .table [], body := body.foldl Universe.putMember [] }
  | value v => return .ofJson v

/-- The hints of several forms, in order. -/
def buildAll : List Form → Building (List Hint)
  | [] => return []
  | form :: rest => do
    let h ← build form
    return h :: (← buildAll rest)

/-- The hint of a form that may be missing. -/
def buildOption : Option Form → Building (Option Hint)
  | none => return none
  | some form => return some (← build form)

end

end Form

/-! ## Classes of forms -/

/-- The annotation of a form. A failure to find a key tells the key. -/
def AnnotationForm.build : AnnotationForm → Building Annotation
  | hint form => return .hint (← form.build)
  | written text => return .hint (.text text)
  | failing exception message =>
    return .failing exception (if exception.name = "KeyError" then Text.quoted message else message)

/-- The key of a form, which has to be hashable. -/
def KeyForm.build : KeyForm → Building AnnotationKey
  | text name => return .text name
  | value form => do
    let key ← form.build
    match key.unhashable? with
    | some typeName => throw (.unhashableType typeName)
    | none => return .ofHint key

/-- The annotations of a class, given a member of the class in their place. -/
def Annotations.ofMember (entries : List (AnnotationKey × Annotation)) : Option Hint → Annotations
  | none => .table entries
  | some (.dict entries) =>
    .table (entries.filterMap fun
      | .tuple [key, h] => some (.ofHint key, .hint h)
      | _ => none)
  | some h => .misused h

namespace Workspace

/-- Failures to evaluate an annotation that a model passes over: its names may be declared later. -/
def lateKinds : List String := ["NameError"]

/-- A model evaluates the annotations of its row when it is declared, those of the farthest ancestor first,
except for private ones. -/
def checkModel (w : Workspace) (row : List HostClass) : Except Failure Unit := do
  for c in row.reverse do
    for (key, annotation) in Universe.entriesOf c.annotations do
      let name := FieldName.ofKey w.classes key
      if let .odd exception message := name then
        throw (.raised exception message)
      if name.isPublic then
        if let .hint (.text text) := annotation then
          let _ ← Hint.ofForward text
        match w.evaluate c annotation with
        | .ok _ => pure ()
        | .error e => if e.isAmong lateKinds then pure () else throw e

/-- The text starts with a name that no dot and other name follow. -/
def startsWithName (text : List Char) : Bool :=
  let rest := text.dropWhile Text.isBlank
  let more := (rest.dropWhile Text.isInName).dropWhile Text.isBlank
  let isStart (cs : List Char) : Bool := (cs.head?.map Text.isInName).getD false
  let isDotted : Bool :=
    match more with
    | '.' :: after => isStart (after.dropWhile Text.isBlank)
    | _ => false
  isStart rest && !isDotted

/-- Names in the annotations of a record class are looked up in its module, which has to be there. -/
def checkRecord (w : Workspace) (c : HostClass) : Except Failure Unit :=
  let texts := (Universe.entriesOf c.annotations).filterMap fun
    | (_, .hint h) => h.text?
    | (_, .failing _ _) => none
  let isThere : Bool :=
    match c.moduleName.text? with
    | some home => Catalogue.modules.contains home || w.declared.any fun d => d.home == home
    | none => false
  match c.moduleName.unhashable? with
  | some typeName => .error (.unhashableType typeName)
  | none =>
    if texts.any (fun text => startsWithName text.toList) && !isThere then
      .error (.raised "AttributeError" "'NoneType' object has no attribute '__dict__'")
    else .ok ()

end Workspace

/-- Declares the class of a form. -/
def ClassForm.build (form : ClassForm) : Building Unit := do
  let bases ← Form.buildAll form.bases
  let annotations ← form.annotations.mapM fun (key, annotation) => return (← key.build, ← annotation.build)
  let attributes ← form.attributes.mapM fun (name, of) => return (name, ← of.build)
  let given := [("__module__", Hint.text form.moduleName), ("__qualname__", .text form.qualifiedName)]
  let methods := form.methods.map fun m => (m, Hint.function m)
  let body := (given ++ attributes ++ methods).foldl Universe.putMember []
  let c ← Building.enter fun u => u.declare
    { name := form.name
      bases
      annotations :=
        .ofMember (annotations.foldl Universe.putAnnotation []) (body.lookup "__annotations__")
      body := body.filter fun (name, _) => name ≠ "__annotations__" }
  let w ← get
  if c.ref.maker = .model then w.checkModel (w.classes.row c.lineage)
  let known : Workspace := { w with declared := ⟨form.name, form.moduleName, c.ref⟩ :: w.declared }
  if form.isRecord then
    known.checkRecord c
    set { known with classes := w.classes.amend (← w.classes.asRecord c) }
  else set known

/-- Declares the classes of some forms. -/
def Workspace.ofForms (classes : List ClassForm)
    (evaluator : Scope → String → Except Failure Hint := Scope.read) : Except Failure Workspace :=
  ((classes.forM ClassForm.build : Building Unit).run (.initial evaluator)).map (·.2)

/-- The hint of a form, and what is declared after building it. -/
def Workspace.build (w : Workspace) (hint : Form) : Except Failure (Hint × Workspace) :=
  (hint.build : Building Hint).run w

end SchemaRegistry
