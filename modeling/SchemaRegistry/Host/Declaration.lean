import SchemaRegistry.Host.Enumeration

/-!
# Declaring classes

A declaration names the bases of a class and what stands in its body. Bases can be hints: a class with
arguments stands for the class. The class gets the maker that fits those of all its bases, a layout that fits
theirs, and a row of ancestors; then the ancestors that look after their descendants have their say.

`Universe.declare` answers with the class or says what keeps it from being.
-/

namespace SchemaRegistry

/-- What is said about a class when it is declared. -/
structure ClassSpec where
  /-- The name under which its module knows the class. -/
  name : String
  bases : List Hint
  annotations : Annotations
  /-- The members in the body of the class. -/
  body : List (String × Hint)

namespace ClassSpec

/-- The member of a name in the body. -/
def member? (spec : ClassSpec) (name : String) : Option Hint := spec.body.lookup name

/-- The member of the name that a key is, if it is one. -/
def valueOf? (spec : ClassSpec) : AnnotationKey → Option Hint
  | .text name => name.text?.bind spec.member?
  | .value _ => none

/-- The name with those of the classes and functions around it. -/
def qualifiedName (spec : ClassSpec) : Except Failure String :=
  match spec.member? "__qualname__" with
  | none => .ok spec.name
  | some h =>
    match h.text? with
    | some name => .ok name
    | none => .error (.ofType ("type __qualname__ must be a str, not " ++ h.typeName))

end ClassSpec

namespace Universe

/-! ## Bases -/

/-- The failure to make a subclass of a hint. -/
def notSubclassable (h : Hint) : Failure := .ofType ("Cannot subclass " ++ h.display)

/-- The hint is another name for a class, or such a name or a generic class with arguments. -/
def isAlias : Hint → Bool
  | .named .. | .filled .. | .formed .. | .union false _ | .literal _ | .annotated .. => true
  | _ => false

/-- One of some bases makes a class generic. -/
def anyGeneric (u : Universe) : List Hint → Except Failure Bool
  | [] => .ok false
  | .cls c _ :: rest | .submodel c _ _ :: rest =>
    if u.descends c ClassRef.genericId then .ok true else anyGeneric u rest
  | h :: rest =>
    if isAlias h then .ok true
    else
      match h with
      | .applied .. => anyGeneric u rest
      | _ => .error (.ofType "issubclass() arg 1 must be a class")

/-- The class with a number as a hint. -/
def hintById (u : Universe) (id : Nat) : Hint :=
  match u.find? id with
  | some c => u.hintOf c.ref
  | none => .nothing

/-- The bases that another name for a class stands for: the class, unless it is a base already, and the base
of generic classes, unless a later base makes the class generic. -/
def aliasEntries (u : Universe) (origin : ClassRef) (all later : List Hint) :
    Except Failure (List Hint) := do
  let isOrigin (h : Hint) : Bool := match h with | .cls c _ => c.id == origin.id | _ => false
  let own := if all.any isOrigin then [] else [u.hintOf origin]
  return own ++ if ← u.anyGeneric later then [] else [u.hintById ClassRef.genericId]

/-- The base that a model with arguments stands for: the model, unless a later base stands for it. -/
def submodelEntries (u : Universe) (c : ClassRef) (later : List Hint) : List Hint :=
  let isModel (h : Hint) : Bool := match h with | .cls d _ | .submodel d _ _ => d.id == c.id | _ => false
  if later.any isModel then [] else [u.hintById c.id]

/-- The bases that a base stands for, if it is no class itself. -/
def baseEntries (u : Universe) (all later : List Hint) (h : Hint) :
    Except Failure (List Hint) :=
  match h with
  | .applied origin _ _ => .ok [u.hintOf origin]
  | .submodel c _ _ => .ok (u.submodelEntries c later)
  | .named _ origin | .filled (some _) origin _ => u.aliasEntries origin all later
  | .filled none origin _ =>
    if origin.id = ClassRef.genericId then
      let hasProtocol := all.any fun b => b.same (u.hintById ClassRef.protocolId)
      .ok (if hasProtocol || later.any isAlias then [] else [u.hintOf origin])
    else .ok [u.hintOf origin]
  | .annotated (.form _) _ => .error (notSubclassable h)
  | .annotated base _ => .ok [base]
  | .form _ | .formed .. | .union false _ | .literal _ => .error (notSubclassable h)
  | .newType _ newName _ =>
    .ok ((u.classes.find? fun c => c.ref.name = "Dummy").map fun c =>
      Hint.cls { c.ref with name := newName } none).toList
  | .function "NamedTuple" => .ok []
  | .function "TypedDict" =>
    .ok ((u.classes.find? fun c => c.ref.maker = .typedDict && c.bases = [ClassRef.objectId]).map
      (fun c => u.hintOf c.ref)).toList
  | h => .ok [h]

/-- The bases that some bases stand for. -/
def resolved (u : Universe) (all : List Hint) :
    List Hint → Except Failure (List Hint)
  | [] => .ok []
  | h :: later => do
    let entries ← u.baseEntries all later h
    return entries ++ (← resolved u all later)

/-- The failure of a class whose bases are values. They would be told to make a value of their type. -/
def valueBase (h : Hint) (bases : List Hint) : Failure :=
  let typeName := h.typeName
  .ofType <|
    match h with
    | .nothing => "NoneType takes no arguments"
    | .ellipsis => "EllipsisType takes no arguments"
    | .whole _ => "int() takes at most 2 arguments (3 given)"
    | .text _ => "str() argument 'encoding' must be str, not tuple"
    | .flag _ | .real _ | .sequence _ | .tuple _ | .set _ | .dict _ =>
      typeName ++ " expected at most 1 argument, got 3"
    | .function _ => "function() argument 'code' must be code, not str"
    | .named .. => "_SpecialGenericAlias.__init__() takes 3 positional arguments but 4 were given"
    | .filled .. | .formed .. | .union false _ | .literal _ =>
      "_GenericAlias.__init__() takes 3 positional arguments but 4 were given"
    | .form _ => "_SpecialForm.__init__() takes 2 positional arguments but 4 were given"
    | .newType .. => "NewType.__init__() takes 3 positional arguments but 4 were given"
    | .applied .. => "GenericAlias expected 2 arguments, got 3"
    | .other "Quitter" _ => "Quitter.__init__() takes 3 positional arguments but 4 were given"
    | .other "_Helper" _ => "_Helper() takes no arguments"
    | .initVar .. => "InitVar.__init__() takes 2 positional arguments but 4 were given"
    | .typeVar .. =>
      "TypeVar(name, constraint, ...): constraints must be types. Got " ++
        (Hint.tuple bases).display ++ "."
    | .forward _ => "ForwardRef.__init__() takes from 2 to 4 positional arguments but 5 were given"
    | .other "NotImplementedType" _ => "NotImplementedType takes no arguments"
    | _ => "cannot create '" ++ typeName ++ "' instances"

/-- The failure of bases with makers that do not fit. -/
def makerConflict : Failure :=
  .ofType ("metaclass conflict: the metaclass of a derived class must be a (non-strict) subclass of the " ++
    "metaclasses of all its bases")

/-- The classes among some bases. -/
def classesOf (bases : List Hint) : List ClassRef :=
  bases.filterMap fun | .cls c _ => some c | _ => none

/-- The classes that the bases are, which have to be classes. -/
def checkBases (bases : List Hint) : Except Failure (List ClassRef) :=
  let classes := classesOf bases
  if classes.length = bases.length then .ok classes
  else
    match bases with
    | h :: rest =>
      if classes.isEmpty && rest.all fun b => b.typeName = h.typeName then .error (valueBase h bases)
      else .error makerConflict
    | [] => .ok []

/-- The maker that is of the kind of each of some makers. -/
def makerOf : List ClassRef → Except Failure Maker
  | [] => .ok .ordinary
  | c :: rest =>
    rest.foldlM (fun maker d =>
      if maker.isKindOf d.maker then .ok maker
      else if d.maker.isKindOf maker then .ok d.maker
      else .error makerConflict) c.maker

/-- The failure of a class that has no subclasses. -/
def unacceptableBase (base : ClassRef) : Failure :=
  .ofType ("type '" ++ base.typeName ++ "' is not an acceptable base type")

/-- The base whose layout fits those of all bases: its class and the ancestor that decides the layout. -/
def layoutOf (u : Universe) : Option (HostClass × Nat) → List ClassRef → Except Failure (Option (HostClass × Nat))
  | best, [] => .ok best
  | best, base :: rest =>
    match u.find? base.id with
    | none => .error (unacceptableBase base)
    | some c =>
      if c.isFinal then .error (unacceptableBase base)
      else
        let rowOf (id : Nat) : List Nat := ((u.find? id).map (·.lineage)).getD []
        match best with
        | none => layoutOf u (some (c, c.layout)) rest
        | some (_, winner) =>
          if (rowOf winner).contains c.layout then layoutOf u best rest
          else if (rowOf c.layout).contains winner then layoutOf u (some (c, c.layout)) rest
          else .error (.ofType "multiple bases have instance lay-out conflict")

/-- The first of some numbers that occurs again. -/
def repeated? : List Nat → Option Nat
  | [] => none
  | id :: rest => if rest.contains id then some id else repeated? rest

/-- The name by which a failure calls a class. -/
def nameOf (u : Universe) (id : Nat) : String := ((u.find? id).map (·.ref.name)).getD ""

/-- The ancestors of a class with these bases, in a row. -/
def ancestorsOf (u : Universe) (bases : List Nat) : Except Failure (List Nat) :=
  match repeated? bases with
  | some id => .error (.ofType ("duplicate base class " ++ u.nameOf id))
  | none =>
    match Linearization.ancestors bases (bases.map fun id => ((u.find? id).map (·.lineage)).getD []) with
    | .ok ancestors => .ok ancestors
    | .error heads =>
      .error (.ofType ("Cannot create a consistent method resolution\norder (MRO) for bases " ++
        ", ".intercalate (heads.map u.nameOf)))

/-! ## Slots -/

/-- The names of the slots that a class asks for. -/
def slotNames : Hint → Except Failure (List Hint)
  | .text name => .ok [.text name]
  | .applied origin supertype args => .ok [.applied origin supertype args]
  | .sequence items | .tuple items | .set items => .ok items
  | .dict entries => .ok (entries.filterMap fun | .tuple (key :: _) => some key | _ => none)
  | h => .error (.ofType (Text.quoted h.typeName ++ " object is not iterable"))

/-- The slots of a class fit its base and its members. The answer is whether there are any. -/
def checkSlots (spec : ClassSpec) (best : Option HostClass) : Except Failure Bool := do
  match spec.member? "__slots__" with
  | none => return false
  | some h =>
    let names ← slotNames h
    if !names.isEmpty then
      if let some c := best then
        if c.grows then
          throw (.ofType ("nonempty __slots__ not supported for subtype of '" ++ c.ref.typeName ++ "'"))
    for name in names do
      match name.text? with
      | none => throw (.ofType ("__slots__ items must be strings, not '" ++ name.typeName ++ "'"))
      | some s => if !Text.isName s then throw (.ofType "__slots__ must be identifiers")
    for name in names do
      let s := (name.text?).getD ""
      if (spec.member? s).isSome then
        throw (.raised "ValueError" (Text.quoted s ++ " in __slots__ conflicts with class variable"))
    return !names.isEmpty

/-! ## What ancestors say about their descendants -/

/-- The member by which an ancestor looks after its descendants. -/
def hookMember : String := "__init_subclass__"

/-- The hook of a known class. -/
def hook (name : String) : Hint := .other "classmethod" name

/-- Modules and names of classes that are no protocols but can be bases of one. -/
def protocolBases : List String :=
  ["collections.abc.Callable", "collections.abc.Awaitable", "collections.abc.Iterable",
    "collections.abc.Iterator", "collections.abc.AsyncIterable", "collections.abc.Hashable",
    "collections.abc.Sized", "collections.abc.Container", "collections.abc.Collection",
    "collections.abc.Reversible", "contextlib.AbstractContextManager",
    "contextlib.AbstractAsyncContextManager"]

mutual

/-- The variables in a hint, each once, in the order of the text. -/
def variablesOf : Hint → List Hint
  | .typeVar id name => [.typeVar id name]
  | .applied _ _ args => variablesOfAll args
  | .filled _ _ args => variablesOfAll args
  | .formed _ args => variablesOfAll args
  | .union _ members => variablesOfAll members
  | .literal values => variablesOfAll values
  | .annotated base _ => variablesOf base
  | _ => []

/-- The variables in several hints. -/
def variablesOfAll : List Hint → List Hint
  | [] => []
  | h :: rest => Hint.distinct (variablesOf h ++ variablesOfAll rest)

end

/-- The variables of the base of generic classes among some bases, if it has arguments there. -/
def listedVariables (bases : List Hint) : List (List Hint) :=
  bases.filterMap fun
    | .filled none origin args =>
      if origin.id = ClassRef.genericId then some (variablesOfAll args) else none
    | _ => none

/-- The variables of a generic class: those that are listed, or all in its bases. -/
def genericParameters (u : Universe) (isTable changed : Bool) (given : List Hint) (bases : List ClassRef) :
    Except Failure (List Hint) := do
  let generic := u.hintById ClassRef.genericId
  let isPlain : Bool :=
    if changed then given.any fun h => h.same generic
    else !isTable && bases.any fun c => c.id == ClassRef.genericId
  if isPlain then throw (.ofType "Cannot inherit from plain Generic")
  if !changed then return []
  let all := variablesOfAll given
  match listedVariables given with
  | [] => return all
  | [listed] =>
    match all.filter fun v => !listed.any v.same with
    | [] => return listed
    | missing =>
      throw (.ofType ("Some type variables (" ++ ", ".intercalate (missing.map Hint.display) ++
        ") are not listed in Generic[" ++ ", ".intercalate (listed.map Hint.display) ++ "]"))
  | _ => throw (.ofType "Cannot inherit from Generic[...] multiple times.")

/-! ## Models -/

/-- The variables that arguments are put in for in a model. -/
def modelVariables (u : Universe) (c : ClassRef) : List Hint :=
  ((u.find? c.id).map (·.modelParameters)).getD []

mutual

/-- The variables in an argument of a model, those of models in it among them. -/
def freeIn (u : Universe) : Hint → List Hint
  | .typeVar id name => [.typeVar id name]
  | .cls c _ => if c.maker = .model then u.modelVariables c else []
  | .submodel _ _ args | .applied _ _ args | .filled _ _ args | .formed _ args => freeInAll u args
  | .union _ members => freeInAll u members
  | .literal values => freeInAll u values
  | .sequence items => freeInAll u items
  | .annotated base metadata => Hint.distinct (freeIn u base ++ freeInAll u metadata)
  | _ => []

/-- The variables in several arguments of a model, each once. -/
def freeInAll (u : Universe) : List Hint → List Hint
  | [] => []
  | h :: rest => Hint.distinct (freeIn u h ++ freeInAll u rest)

end

/-- The variables of the model that a model is built on: the nearest in its row, perhaps with arguments. -/
def baseVariables (u : Universe) (given : List Hint) (row : List HostClass) : List Hint :=
  match row.find? fun a => a.ref.maker = .model with
  | none => []
  | some base =>
    let args? : Option (List Hint) := given.findSome? fun
      | .submodel c _ args => if c.id = base.ref.id then some args else none
      | _ => none
    match args? with
    | some args => u.freeInAll args
    | none => base.modelParameters

/-- The failure of a model whose variables are not all listed. -/
def unlisted (c : HostClass) (bases : List ClassRef) (all : List Hint) : Failure :=
  let listed := "typing.Generic[" ++ ", ".intercalate (all.map Hint.display) ++ "]"
  let note :=
    if bases.any fun b => b.id = ClassRef.genericId then ""
    else " Note: `typing.Generic` must go last: `class " ++ c.ref.name ++ "(" ++
      ", ".intercalate (bases.map (·.name) ++ [listed]) ++ "): ...`)"
  .ofType ("All parameters must be present on typing.Generic; you should inherit from " ++ listed ++ "." ++ note)

/-- A class with its variables as a model, if it is one. If it lists variables of its own, those of the model that it
is built on have to be among them. -/
def withModelParameters (u : Universe) (given : List Hint) (bases : List ClassRef) (row : List HostClass)
    (c : HostClass) : Except Failure HostClass :=
  let inherited := u.baseVariables given row
  let isOwn (v : Hint) : Bool := c.parameters.any v.same
  if c.ref.maker ≠ .model then .ok c
  else if c.parameters.isEmpty then .ok { c with modelParameters := inherited }
  else if inherited.all isOwn then .ok { c with modelParameters := c.parameters }
  else .error (unlisted c bases (inherited ++ c.parameters.filter fun v => !inherited.any v.same))

/-! ## Protocols -/

/-- The bases of a protocol are protocols, or classes that can be bases of one. -/
def checkProtocol (u : Universe) (bases : List ClassRef) : Except Failure Bool := do
  if !bases.any fun c => c.id == ClassRef.protocolId then return false
  for base in bases do
    let isFit : Bool :=
      base.id = ClassRef.objectId || base.id = ClassRef.genericId || protocolBases.contains base.shown ||
        ((u.find? base.id).map (·.isProtocol)).getD false
    if !isFit then
      throw (.ofType ("Protocols can only inherit from other protocols, got " ++ base.display))
  return true

/-! ## Declaring -/

/-- How hints show a class: by its module and its name there, by its name alone if it is built in. -/
def shownName (moduleName : Hint) (qualifiedName : String) : String :=
  match moduleName.text? with
  | some "builtins" => qualifiedName
  | some name => name ++ "." ++ qualifiedName
  | none => moduleName.display ++ "." ++ qualifiedName

/-- The module of a class that does not say which. -/
def defaultModule : Maker → String
  | .ordinary | .anything => "types"
  | .enumeration => "enum"
  | .typedDict => "typing"
  | .abstract | .protocol | .model => "abc"

/-- The name can be that of a class. -/
def checkName (name : String) : Except Failure Unit :=
  if name.toList.contains '\x00' then .error .zeroInName else .ok ()

/-- The failure of a subclass of a new name of a hint. -/
def newNameSubclassed (name : String) (bases : List ClassRef) : Failure :=
  let newName := ((bases.find? fun c => c.typeName = "Dummy").map (·.name)).getD ""
  .ofType ("Cannot subclass an instance of NewType. Perhaps you were looking for: `" ++ name ++
    " = NewType(" ++ Text.quoted name ++ ", " ++
    String.ofList (newName.toList.reverse.takeWhile (· ≠ '.')).reverse ++ ")`")

/-- A class after its ancestors have had their say, nearest first. The base of generic classes and that of
protocols let the others go before them; any other ancestor has the last word. -/
def afterHooks (u : Universe) (changed : Bool) (given : List Hint) (bases : List ClassRef) (c : HostClass) :
    List Hint → Except Failure HostClass
  | [] => .ok c
  | .function _ :: _ | .cls .. :: _ | .submodel .. :: _ | .applied .. :: _ => .ok c
  | .other "classmethod" "generic" :: rest => do
    let c ← afterHooks u changed given bases c rest
    return { c with parameters := ← u.genericParameters (c.ref.maker = .typedDict) changed given bases }
  | .other "classmethod" "protocol" :: rest => do
    let c ← afterHooks u changed given bases c rest
    return { c with isProtocol := ← u.checkProtocol bases }
  | .other "classmethod" "new name" :: _ => .error (newNameSubclassed c.ref.name bases)
  | .other "classmethod" "annotated" :: _ =>
    .error (.ofType ("Cannot subclass " ++ (c.moduleName.text?.getD c.moduleName.display) ++ ".Annotated"))
  | .other "classmethod" _ :: _ => .error (.ofType "Cannot subclass special typing classes")
  | h :: _ => .error (.ofType (Text.quoted h.typeName ++ " object is not callable"))

/-- Enters a member: a repeated name keeps its place and takes the later value. -/
def putMember (members : List (String × Hint)) (entry : String × Hint) : List (String × Hint) :=
  if members.any fun (name, _) => name == entry.1 then
    members.map fun old => if old.1 == entry.1 then entry else old
  else members ++ [entry]

/-- Enters a class with these bases. -/
def enter (u : Universe) (spec : ClassSpec) (maker : Maker) (given : List Hint) (changed : Bool)
    (bases : List ClassRef) (dataType : Option Nat) (enumerated : List (String × Hint)) :
    Except Failure (HostClass × Universe) := do
  let object := ((u.find? ClassRef.objectId).map (·.ref)).toList
  let bases := if bases.isEmpty then object else bases
  let best ← u.layoutOf none bases
  let hasSlots ← checkSlots spec (best.map (·.1))
  checkName spec.name
  let qualifiedName ← spec.qualifiedName
  let ancestors ← u.ancestorsOf (bases.map (·.id))
  let found := u.row ancestors
  for (_, value) in enumerated do
    Enumeration.checkValue u found dataType value
  let moduleName := (spec.member? "__module__").getD (.text (defaultModule maker))
  let heritage : List Trait := (found.flatMap (·.heritage)).eraseDups
  let c : HostClass :=
    { ref :=
        { id := u.next
          name := spec.name
          typeName := spec.name
          shown := shownName moduleName qualifiedName
          maker
          traits := traitsOf heritage (spec.body :: found.map (·.members)) }
      qualifiedName
      moduleName
      annotations := spec.annotations
      members := spec.body.filter fun (name, _) => name ≠ "__qualname__"
      lineage := u.next :: ancestors
      bases := bases.map (·.id)
      heritage
      layout :=
        if hasSlots || (best.map (·.1.grows)).getD false then u.next
        else (best.map (·.2)).getD ClassRef.objectId
      grows := false
      isFinal := false
      isProtocol := false
      parameters := ((found.find? fun a => a.ref.id ≠ ClassRef.objectId).map (·.parameters)).getD []
      enumerated
      dataType
      record := none }
  let c ← u.afterHooks changed given bases c (found.filterMap fun a => a.members.lookup hookMember)
  let c ← u.withModelParameters given bases found c
  return (c, ⟨c :: u.classes, u.next + 1⟩)

/-- The annotations of a table class as hints. -/
def checkedAnnotations (complaint : AnnotationKey → String) :
    List (AnnotationKey × Annotation) → Except Failure (List (AnnotationKey × Annotation))
  | [] => .ok []
  | (key, annotation) :: rest => do
    let h ←
      match annotation with
      | .hint h => h.check (complaint key)
      | .failing _ message => pure (Hint.forward message)
    return (key, .hint h) :: (← checkedAnnotations complaint rest)

/-- Enters an annotation: a repeated key keeps its place and takes the later annotation. -/
def putAnnotation (annotations : List (AnnotationKey × Annotation)) (entry : AnnotationKey × Annotation) :
    List (AnnotationKey × Annotation) :=
  if annotations.any fun (key, _) => key.same entry.1 then
    annotations.map fun old => if old.1.same entry.1 then entry else old
  else annotations ++ [entry]

/-- The entries of annotations. -/
def entriesOf : Annotations → List (AnnotationKey × Annotation)
  | .table entries => entries
  | .misused _ => []

/-- The failure of a value in place of annotations that are to be gone through. -/
def noEntries (h : Hint) : Failure :=
  .raised "AttributeError" <|
    match h with
    | .cls c _ | .submodel c _ _ | .named _ c | .filled _ c _ | .applied c _ _ =>
      "type object " ++ Text.quoted c.typeName ++ " has no attribute 'items'"
    | .form _ | .formed .. | .union false _ | .literal _ => "items"
    | h => Text.quoted h.typeName ++ " object has no attribute 'items'"

/-- Declares a table class: a table with known keys. Its annotations are hints at once, behind those of its
bases. -/
def declareTable (u : Universe) (spec : ClassSpec) (given : List Hint) (changed : Bool)
    (bases : List ClassRef) : Except Failure (HostClass × Universe) := do
  for base in bases do
    if base.maker ≠ .typedDict && base.id ≠ ClassRef.genericId then
      throw (.ofType "cannot inherit from both a TypedDict type and a non-TypedDict base class")
  let generic := (bases.filter fun c => u.descends c ClassRef.genericId).take 1
  let generics := if generic.isEmpty then [] else classesOf [u.hintById ClassRef.genericId]
  let dict := ((u.classes.find? fun c => c.ref.shown = "dict").map (·.ref)).toList
  let (c, u') ← u.enter spec .typedDict given changed (generics ++ dict) none []
  if let .misused h := spec.annotations then throw (noEntries h)
  let own ← checkedAnnotations
    (fun _ => "TypedDict('Name', \x7bf0: t0, f1: t1, ...\x7d); each t must be a type")
    (entriesOf spec.annotations)
  let inherited := (u.row (bases.map (·.id))).flatMap fun base => entriesOf base.annotations
  let c := { c with annotations := .table ((inherited ++ own).foldl putAnnotation []) }
  return (c, { u' with classes := c :: u.classes })

/-- Names that cannot be those of the parts of a row class. -/
def checkPart (name : LooseText) : Except Failure Unit :=
  if !name.text?.any Text.isName then
    .error (.raised "ValueError"
      ("Type names and field names must be valid identifiers: " ++ name.quoted))
  else if Written.keywords.contains name.text then
    .error (.raised "ValueError"
      ("Type names and field names cannot be a keyword: " ++ name.quoted))
  else .ok ()

/-- Declares a row class: a tuple whose parts have names. -/
def declareRow (u : Universe) (spec : ClassSpec) (bases : List Hint) :
    Except Failure (HostClass × Universe) := do
  let isRow (h : Hint) : Bool := match h with | .function "NamedTuple" => true | _ => false
  let resolved ← u.resolved bases bases
  let isFit (h : Hint) : Bool := match h with | .cls c _ => c.maker == .ordinary | _ => false
  if !resolved.all isFit then throw makerConflict
  for h in resolved do
    if !h.same (u.hintById ClassRef.genericId) then
      throw (.ofType "can only inherit from a NamedTuple type and Generic")
  let tuple := ((u.classes.find? fun c => c.ref.shown = "tuple").map fun c => u.hintOf c.ref).toList
  let own ← checkedAnnotations (fun key => "field " ++ key.shown.lossy ++ " annotation must be a type")
    (entriesOf spec.annotations)
  let _ ← own.foldlM (fun (defaults : List String) (key, _) =>
    if (spec.valueOf? key).isSome then .ok (defaults ++ [key.shown.text])
    else if defaults.isEmpty then .ok defaults
    else
      .error (.ofType ("Non-default namedtuple field " ++ key.shown.lossy ++ " cannot follow default field" ++
        (if 1 < defaults.length then "s " else " ") ++ ", ".intercalate defaults))) []
  if (spec.member? "__module__").isNone then throw (.raised "KeyError" "'__module__'")
  checkPart spec.name
  for (key, _) in own do checkPart key.shown
  for (key, _) in own do
    if key.shown.first? = some '_' then
      throw (.raised "ValueError" ("Field names cannot start with an underscore: " ++ key.shown.quoted))
  if 1 < (bases.filter isRow).length then throw (.ofType "duplicate base class tuple")
  if bases.any fun h => h.same (u.hintById ClassRef.genericId) then
    throw (.ofType "Cannot inherit from plain Generic")
  let spec := { spec with annotations := .table own, body := spec.body.filter (·.1 ≠ "__qualname__") }
  u.enter spec .ordinary [] false (classesOf tuple) none []

/-- Declares a class. -/
def declare (u : Universe) (spec : ClassSpec) : Except Failure (HostClass × Universe) := do
  let isRow (h : Hint) : Bool := match h with | .function "NamedTuple" => true | _ => false
  if spec.bases.any isRow then u.declareRow spec spec.bases
  else
    let resolved ← u.resolved spec.bases spec.bases
    let changed := spec.bases.any fun | .cls .. | .submodel .. => false | _ => true
    let bases ← checkBases resolved
    match ← makerOf bases with
    | .typedDict => u.declareTable spec spec.bases changed bases
    | .enumeration =>
      let dataType ← Enumeration.checkBases u spec.name bases
      let members ← Enumeration.membersOf spec.name [] spec.body
      Enumeration.checkNames members
      u.enter spec .enumeration spec.bases changed bases dataType members
    | maker => u.enter spec maker spec.bases changed bases none []

/-- Replaces a class that was declared last. -/
def amend (u : Universe) (c : HostClass) : Universe :=
  { u with classes := u.classes.map fun old => if old.ref.id = c.ref.id then c else old }

/-! ## Record classes -/

/-- The annotation marks an argument that is no field. -/
def isInitVar : Annotation → Bool
  | .hint (.initVar ..) => true
  | _ => false

/-- The field of a record class for an annotation of a name. -/
def dataFieldOf (row : List HostClass) (name : LooseText) ( annotation : Annotation) :
    Except Failure DataField :=
  let default := name.text?.bind (inherited? · row)
  let isClassVar : Bool :=
    match annotation with
    | .hint h => h.isClassVar
    | .failing .. => false
  let mutableType? : Option String :=
    match default with
    | some (.sequence _) => some "list"
    | some (.dict _) => some "dict"
    | some (.set _) => some "set"
    | _ => none
  match mutableType? with
  | some typeName =>
    if isClassVar || isInitVar annotation then .ok ⟨name, true, !isClassVar⟩
    else
      .error (.raised "ValueError" ("mutable default <class '" ++ typeName ++ "'> for field " ++ name.text ++
        " is not allowed: use default_factory"))
  | none => .ok ⟨name, default.isSome, !isClassVar⟩

/-- The field of a record class for an annotation, which has to be of a name. -/
def dataField (row : List HostClass) : AnnotationKey × Annotation → Except Failure DataField
  | (.text name, annotation) => dataFieldOf row name annotation
  | (.value key, _) =>
    .error (.ofType ("attribute name must be string, not " ++ Text.quoted key.typeName))

/-- Enters a field: a repeated name keeps its place. -/
def putField (fields : List DataField) (f : DataField) : List DataField :=
  if fields.any fun old => old.name == f.name then
    fields.map fun old => if old.name == f.name then f else old
  else fields ++ [f]

/-- The first field without a default behind one with a default. -/
def lateField? (seen : Bool) : List DataField → Option LooseText
  | [] => none
  | f :: rest =>
    if f.hasDefault then lateField? true rest
    else if seen then some f.name
    else lateField? seen rest

/-- The failure of a name that cannot stand in a line of the text that builds instances. -/
def badFieldName (name : String) (line : Nat) : Failure :=
  let reason : String :=
    match Written.readWhole name with
    | .error fault => fault.reason
    | .ok _ => "invalid syntax"
  .raised "SyntaxError" (Written.Fault.message (.form reason line))

/-- The failure of a name that has no bytes in UTF-8 in the text that builds instances. -/
def unwritableFieldName (name : LooseText) : Failure :=
  .raised "UnicodeEncodeError" ("'utf-8' codec can't encode " ++ name.quoted ++ ": surrogates not allowed")

/-- The names of fields can be those of arguments: they are parts of names in the first line and names in the
second. -/
def checkFieldNames (names : List LooseText) : Except Failure Unit :=
  match names.find? fun name => !name.IsText with
  | some name => .error (unwritableFieldName name)
  | none =>
    let names := names.map (·.text)
    match names.find? fun name => !Text.isName ("_" ++ name) with
    | some name => .error (badFieldName name 1)
    | none =>
      match names.find? fun name => !Text.isName name || Written.keywords.contains name with
      | some name => .error (badFieldName name 2)
      | none => .ok ()

/-- Members that a record class gets. -/
def recordMembers : List String := [
  "__dataclass_params__", "__dataclass_fields__", "__init__", "__repr__", "__eq__", "__match_args__"]

/-- Makes a class a record class. Fields without a default come before those with one. -/
def asRecord (u : Universe) (c : HostClass) : Except Failure HostClass := do
  let inherited := (u.row c.lineage.tail).reverse.filterMap (·.record)
  let known := inherited.flatten.foldl putField []
  let own ←
    match c.annotations with
    | .misused h => throw (noEntries h)
    | .table entries => entries.mapM (dataField (c :: u.row c.lineage.tail))
  let fields := own.foldl putField known
  let counting := fields.filter (·.counts)
  if let some name := lateField? false counting then
    throw (.ofType ("non-default argument " ++ name.quoted ++ " follows default argument"))
  checkFieldNames (counting.map (·.name))
  let more := recordMembers.map fun name => (name, Hint.function name)
  return { c with record := some fields, members := c.members ++ more ++ [("__hash__", .nothing)] }

end Universe

end SchemaRegistry
