import SchemaRegistry.Host.Declaration
import SchemaRegistry.Text.Split

/-!
# Known classes

The classes that hints name without declaring them, each with its module, its bases and what it is known to
be, and the other names by which hints go. Bases stand before the classes that are built on them.
-/

namespace SchemaRegistry.Catalogue

/-! ## Classes -/

/-- A known class. -/
structure Entry where
  /-- The name by which hints refer to the class. -/
  name : String
  moduleName : String := "builtins"
  bases : List String := []
  traits : List Trait := []
  /-- Those of the methods of a collection that it has. -/
  methods : List String := []
  maker : Maker := .ordinary
  /-- The class lays out its instances in its own way. -/
  laidOut : Bool := false
  /-- The class makes its instances itself. -/
  builds : Bool := laidOut
  grows : Bool := false
  isFinal : Bool := false
  /-- Failures name the class with its module. -/
  isNative : Bool := false
  /-- How the class takes arguments: by the name of the rule. -/
  arguments : Option String := none
  /-- The rule by which the class looks after its descendants. -/
  hook : Option String := none
  parameters : List Hint := []
  /-- The class of the values of an enumeration. -/
  dataType : Option String := none

/-- A variable for kinds of text. -/
def anyText : Hint := .typeVar 0 "AnyStr"

/-- A variable for results. -/
def result : Hint := .typeVar 1 "T_co"

/-- All methods of a collection. -/
def collectionMethods : List String := Universe.collectionMethods

/-- The classes to which the rest refers by number. -/
def first : List Entry := [
  { name := "object" },
  { name := "typing.Any", moduleName := "typing", maker := .anything, builds := true },
  { name := "NoneType", builds := true, isFinal := true },
  { name := "typing.Generic", moduleName := "typing", arguments := some "generic",
    hook := some "generic" },
  { name := "typing.Protocol", moduleName := "typing", bases := ["typing.Generic"], maker := .protocol,
    hook := some "protocol" }]

/-- The exceptions: those with the same bases stand together. -/
def exceptions : List (List String × List String) := [
  ([], ["BaseException"]),
  (["BaseException"],
    ["Exception", "BaseExceptionGroup", "GeneratorExit", "KeyboardInterrupt", "SystemExit"]),
  (["Exception"],
    ["ArithmeticError", "AssertionError", "AttributeError", "OSError", "BufferError", "Warning",
     "EOFError", "ImportError", "SyntaxError", "LookupError", "MemoryError", "NameError",
     "RuntimeError", "ReferenceError", "StopAsyncIteration", "StopIteration", "SystemError",
     "TypeError", "ValueError"]),
  (["BaseExceptionGroup", "Exception"],
    ["ExceptionGroup"]),
  (["OSError"],
    ["BlockingIOError", "ConnectionError", "ChildProcessError", "FileExistsError",
     "FileNotFoundError", "InterruptedError", "IsADirectoryError", "NotADirectoryError",
     "PermissionError", "ProcessLookupError", "TimeoutError"]),
  (["Warning"],
    ["BytesWarning", "DeprecationWarning", "EncodingWarning", "FutureWarning", "ImportWarning",
     "PendingDeprecationWarning", "ResourceWarning", "RuntimeWarning", "SyntaxWarning",
     "UnicodeWarning", "UserWarning"]),
  (["ArithmeticError"],
    ["FloatingPointError", "OverflowError", "ZeroDivisionError"]),
  (["SyntaxError"],
    ["IndentationError"]),
  (["LookupError"],
    ["IndexError", "KeyError"]),
  (["ImportError"],
    ["ModuleNotFoundError"]),
  (["RuntimeError"],
    ["NotImplementedError", "RecursionError"]),
  (["NameError"],
    ["UnboundLocalError"]),
  (["ValueError"],
    ["UnicodeError"]),
  (["ConnectionError"],
    ["BrokenPipeError", "ConnectionAbortedError", "ConnectionRefusedError", "ConnectionResetError"]),
  (["IndentationError"],
    ["TabError"]),
  (["UnicodeError"],
    ["UnicodeDecodeError", "UnicodeEncodeError", "UnicodeTranslateError"])]

/-- The exceptions that lay out their instances in their own way. -/
def laidOutExceptions : List String := [
  "BaseException", "AttributeError", "BaseExceptionGroup", "OSError", "ImportError", "NameError",
  "StopIteration", "SyntaxError", "SystemExit", "UnicodeDecodeError", "UnicodeEncodeError",
  "UnicodeTranslateError"]

/-- The entry of an exception. -/
def exception (bases : List String) (name : String) : Entry :=
  { name, bases
    laidOut := laidOutExceptions.contains name
    arguments := if name = "BaseExceptionGroup" then some "alias" else none }

/-- A built-in class that is laid out in its own way and has no traits. -/
def tool (name : String) (methods : List String := []) (arguments : Option String := none) : Entry :=
  { name, methods, laidOut := true, arguments }

/-- A built-in class of collections. -/
def container (name : String) (traits : List Trait := [.collection]) (arguments : Option String := none) :
    Entry :=
  { name, traits, methods := collectionMethods, laidOut := true, arguments }

/-- All other built-in classes. -/
def builtIn : List Entry := [
  tool "classmethod", tool "complex", tool "property", tool "staticmethod", tool "super",
  { name := "slice", laidOut := true, isFinal := true },
  { name := "type", laidOut := true },
  { name := "int", traits := [.integer], laidOut := true, grows := true },
  { name := "bool", bases := ["int"], traits := [.boolean], laidOut := true, isFinal := true },
  container "bytearray" [.binary, .collection],
  { container "bytes" [.binary, .collection] with grows := true },
  container "dict" [.mapping, .collection] (some "alias"),
  tool "enumerate" ["__iter__"] (some "alias"),
  tool "filter" ["__iter__"],
  { name := "float", traits := [.float], laidOut := true },
  container "frozenset" [.collection] (some "alias"),
  container "list" [.collection] (some "alias"),
  tool "map" ["__iter__"],
  { name := "memoryview", traits := [.binary, .collection], methods := ["__len__", "__iter__"],
    laidOut := true, isFinal := true },
  { container "range" with isFinal := true },
  tool "reversed" ["__iter__"],
  container "set" [.collection] (some "alias"),
  container "str" [.string, .collection],
  { container "tuple" [.collection] (some "alias") with grows := true },
  tool "zip" ["__iter__"],
  { container "mappingproxy" [.mapping, .collection] (some "alias") with isFinal := true }]

/-- A class for what other classes can do. -/
def capability (name : String) (bases methods : List String) (traits : List Trait := [])
    (arguments : Option String := none) : Entry :=
  { name, moduleName := "collections.abc", bases, methods, traits, maker := .abstract, arguments }

/-- The classes for what other classes can do. -/
def capabilities : List Entry := [
  capability "abc.Sized" [] ["__len__"],
  capability "abc.Iterable" [] ["__iter__"] [] (some "alias"),
  capability "abc.Container" [] ["__contains__"] [] (some "alias"),
  capability "abc.Collection" ["abc.Sized", "abc.Iterable", "abc.Container"] [] [.collection],
  capability "abc.Mapping" ["abc.Collection"] ["__contains__"] [.mapping],
  capability "abc.MutableMapping" ["abc.Mapping"] [],
  capability "abc.Reversible" ["abc.Iterable"] [],
  capability "abc.Sequence" ["abc.Reversible", "abc.Collection"] ["__iter__", "__contains__"],
  capability "abc.MutableSequence" ["abc.Sequence"] [],
  capability "abc.Awaitable" [] [] [] (some "alias"),
  capability "abc.Coroutine" ["abc.Awaitable"] [],
  capability "abc.AsyncIterable" [] [] [] (some "alias"),
  capability "abc.AsyncIterator" ["abc.AsyncIterable"] [],
  capability "abc.AsyncGenerator" ["abc.AsyncIterator"] [],
  capability "abc.Hashable" [] [],
  capability "abc.Iterator" ["abc.Iterable"] ["__iter__"],
  capability "abc.Generator" ["abc.Iterator"] [],
  capability "abc.Callable" [] [] [] (some "function"),
  capability "abc.Set" ["abc.Collection"] [],
  capability "abc.MutableSet" ["abc.Set"] [],
  { capability "abc.MappingView" ["abc.Sized"] ["__len__"] [] (some "alias") with laidOut := true },
  capability "abc.KeysView" ["abc.MappingView", "abc.Set"] ["__iter__", "__contains__"],
  capability "abc.ItemsView" ["abc.MappingView", "abc.Set"] ["__iter__", "__contains__"],
  capability "abc.ValuesView" ["abc.MappingView", "abc.Collection"] ["__iter__", "__contains__"],
  capability "abc.ByteString" ["abc.Sequence"] []]

/-- The enumerations. -/
def enumerations : List Entry := [
  { name := "Enum", moduleName := "enum", traits := [.enumeration], maker := .enumeration },
  { name := "enum.ReprEnum", moduleName := "enum", bases := ["Enum"], maker := .enumeration },
  { name := "IntEnum", moduleName := "enum", bases := ["int", "enum.ReprEnum"], maker := .enumeration,
    laidOut := true, dataType := some "int" },
  { name := "StrEnum", moduleName := "enum", bases := ["str", "enum.ReprEnum"], maker := .enumeration,
    dataType := some "str" },
  { name := "Flag", moduleName := "enum", bases := ["Enum"], traits := [.flags],
    methods := collectionMethods, maker := .enumeration },
  { name := "IntFlag", moduleName := "enum", bases := ["int", "enum.ReprEnum", "Flag"],
    maker := .enumeration, laidOut := true, dataType := some "int" },
  { name := "FieldCategory", moduleName := "schemaguard.schemas.attributes", bases := ["str", "Enum"],
    maker := .enumeration, dataType := some "str" }]

/-- Classes of further modules. -/
def further : List Entry := [
  { container "deque" [.collection] (some "alias") with moduleName := "collections" },
  { name := "Counter", moduleName := "collections", bases := ["dict"] },
  { name := "OrderedDict", moduleName := "collections", bases := ["dict"], methods := ["__iter__"],
    laidOut := true, builds := false },
  { name := "defaultdict", moduleName := "collections", bases := ["dict"], laidOut := true,
    builds := false },
  { name := "ChainMap", moduleName := "collections", bases := ["abc.MutableMapping"],
    methods := collectionMethods, maker := .abstract },
  { name := "UserDict", moduleName := "collections", bases := ["abc.MutableMapping"],
    methods := collectionMethods, maker := .abstract },
  { name := "UserList", moduleName := "collections", bases := ["abc.MutableSequence"],
    methods := ["__len__", "__contains__"], maker := .abstract },
  { name := "UserString", moduleName := "collections", bases := ["abc.Sequence"],
    methods := ["__len__", "__contains__"], maker := .abstract },
  { name := "ABC", moduleName := "abc", maker := .abstract },
  { container "array" with moduleName := "array", isNative := true },
  { name := "date", moduleName := "datetime", laidOut := true, isNative := true },
  { name := "datetime", moduleName := "datetime", bases := ["date"], laidOut := true, isNative := true },
  { name := "timedelta", moduleName := "datetime", laidOut := true, isNative := true },
  { name := "Decimal", moduleName := "decimal", laidOut := true, isNative := true },
  { name := "UUID", moduleName := "uuid", laidOut := true, builds := false },
  { name := "pathlib.PurePath", moduleName := "pathlib", laidOut := true },
  { name := "Path", moduleName := "pathlib", bases := ["pathlib.PurePath"] },
  { name := "contextlib.AbstractContextManager", moduleName := "contextlib", bases := ["ABC"],
    maker := .abstract, arguments := some "alias" },
  { name := "contextlib.AbstractAsyncContextManager", moduleName := "contextlib", bases := ["ABC"],
    maker := .abstract, arguments := some "alias" },
  { name := "re.Match", moduleName := "re", laidOut := true, builds := false, isFinal := true,
    isNative := true, arguments := some "alias" },
  { name := "re.Pattern", moduleName := "re", laidOut := true, builds := false, isFinal := true,
    isNative := true, arguments := some "alias" },
  { name := "BaseModel", moduleName := "pydantic.main", maker := .model, laidOut := true,
    arguments := some "model" }]

/-- A class of the module of hints that takes no descendants of its own kind. -/
def sealed (name : String) (bases methods : List String := []) : Entry :=
  { name, moduleName := "typing", bases, methods, hook := some "final" }

/-- A protocol for one thing that instances can do. -/
def supports (name : String) (parameters : List Hint := []) : Entry :=
  { name, moduleName := "typing", bases := ["typing.Protocol"], maker := .protocol, parameters }

/-- The base that a new name of a hint stands for. It refuses descendants. -/
def newNameBase : String := "typing.NewType.Dummy"

/-- Classes of the module of hints. -/
def ofHints : List Entry := [
  { name := "typing.Annotated", moduleName := "typing", builds := true, arguments := some "annotated",
    hook := some "annotated" },
  sealed "typing._Final",
  { sealed "typing.ForwardRef" ["typing._Final"] with laidOut := true },
  sealed "typing.TypeVar" ["typing._Final"],
  sealed "typing.ParamSpec" ["typing._Final"],
  sealed "typing.TypeVarTuple" ["typing._Final"] ["__iter__"],
  sealed "typing.ParamSpecArgs" ["typing._Final"],
  sealed "typing.ParamSpecKwargs" ["typing._Final"],
  { name := "typing.NewType", moduleName := "typing" },
  { name := newNameBase, moduleName := "typing", hook := some "new name" },
  supports "typing.SupportsAbs" [result],
  supports "typing.SupportsBytes",
  supports "typing.SupportsComplex",
  supports "typing.SupportsFloat",
  supports "typing.SupportsIndex",
  supports "typing.SupportsInt",
  supports "typing.SupportsRound" [result],
  { name := "typing.IO", moduleName := "typing", bases := ["typing.Generic"], parameters := [anyText] },
  { name := "typing.BinaryIO", moduleName := "typing", bases := ["typing.IO"] },
  { name := "typing.TextIO", moduleName := "typing", bases := ["typing.IO"] },
  { name := "typing._TypedDict", moduleName := "typing", maker := .typedDict }]

/-- The makers of classes besides the ordinary one. They are classes too. -/
def makers : List Entry := [
  { name := "maker.ABCMeta", moduleName := "abc", bases := ["type"] },
  { name := "maker.EnumType", moduleName := "enum", bases := ["type"], methods := collectionMethods },
  { name := "maker._AnyMeta", moduleName := "typing", bases := ["type"] },
  { name := "maker._ProtocolMeta", moduleName := "typing", bases := ["maker.ABCMeta"] },
  { name := "maker._TypedDictMeta", moduleName := "typing", bases := ["type"] },
  { name := "maker.ModelMetaclass", moduleName := "pydantic._internal._model_construction",
    bases := ["maker.ABCMeta"] }]

/-- All known classes, bases first. -/
def entries : List Entry :=
  first ++ (exceptions.flatMap fun (bases, names) => names.map (exception bases)) ++ builtIn ++
    capabilities ++ enumerations ++ further ++ ofHints ++ makers

/-! ## The universe of known classes -/

/-- The part of a dotted name after the last dot. -/
def lastPart (name : String) : String :=
  String.ofList (name.toList.reverse.takeWhile (· != '.')).reverse

/-- A universe and the classes in it by name. -/
structure Known where
  classes : Universe
  refs : List (String × ClassRef)

/-- The members of a known class that matter for others. -/
def Entry.members (e : Entry) : List (String × Hint) :=
  (if e.builds then [("__new__", Hint.function "__new__")] else []) ++
    e.methods.map (fun name => (name, Hint.function name)) ++
    (e.arguments.map fun rule => ("__class_getitem__", Hint.other "classmethod" rule)).toList ++
    (e.hook.map fun rule => (Universe.hookMember, Universe.hook rule)).toList

/-- The members of an enumeration among the known classes. -/
def Entry.enumerated (e : Entry) : List (String × Hint) :=
  if e.name = "FieldCategory" then
    (Choice.members : List Category).map fun c => (c.word, Hint.category c)
  else []

/-- Enters a class. -/
def Known.enter (k : Known) (e : Entry) : Known :=
  let u := k.classes
  let bases := e.bases.filterMap fun base => k.refs.lookup base
  let bases := if bases.isEmpty && !u.classes.isEmpty then (k.refs.lookup "object").toList else bases
  let ids := bases.map (·.id)
  let rows := ids.map fun id => ((u.find? id).map (·.lineage)).getD []
  let ancestors := (Linearization.ancestors ids rows).toOption.getD []
  let found := u.row ancestors
  let heritage := (e.traits ++ found.flatMap (·.heritage)).eraseDups
  let name := lastPart e.name
  let shown := Universe.shownName (.text e.moduleName) name
  let ref : ClassRef :=
    { id := u.next, name, shown
      typeName := if e.isNative then shown else name
      maker := e.maker
      traits := Universe.traitsOf heritage (e.members :: found.map (·.members)) }
  let layouts := (u.row ids).map (·.layout)
  let c : HostClass :=
    { ref
      qualifiedName := name
      moduleName := .text e.moduleName
      annotations := .table []
      members := e.members
      lineage := u.next :: ancestors
      bases := ids
      heritage
      layout := if e.laidOut then u.next else (layouts.find? (· ≠ ClassRef.objectId)).getD ClassRef.objectId
      grows := e.grows
      isFinal := e.isFinal
      isProtocol := e.maker = .protocol
      parameters := e.parameters
      enumerated := e.enumerated
      dataType := (e.dataType.bind fun name => k.refs.lookup name).map (·.id)
      record := none }
  ⟨⟨c :: u.classes, u.next + 1⟩, (e.name, ref) :: k.refs⟩

/-- All known classes. -/
def known : Known := entries.foldl Known.enter ⟨.empty, []⟩

/-- Other names for known classes. -/
def synonyms : List (String × String) := [
  ("EnvironmentError", "OSError"), ("IOError", "OSError"), ("typing.Text", "str")]

/-- The known class of a name or another name for it. -/
def class? (name : String) : Option ClassRef :=
  known.refs.lookup ((synonyms.lookup name).getD name)

/-- The hint of a known class. -/
def classHint (name : String) : Hint :=
  match class? name with
  | some c => .cls c none
  | none => .nothing

/-! ## Names under which classes take arguments -/

/-- Names under which a known class takes arguments, with the number of arguments. -/
def aliases : List (String × String × Nat) := [
  ("Callable", "abc.Callable", 2), ("Tuple", "tuple", 0), ("Type", "type", 1),
  ("AbstractSet", "abc.Set", 1), ("ByteString", "abc.ByteString", 0), ("Container", "abc.Container", 1),
  ("ContextManager", "contextlib.AbstractContextManager", 1), ("Hashable", "abc.Hashable", 0),
  ("ItemsView", "abc.ItemsView", 2), ("Iterable", "abc.Iterable", 1), ("Iterator", "abc.Iterator", 1),
  ("KeysView", "abc.KeysView", 1), ("Mapping", "abc.Mapping", 2), ("MappingView", "abc.MappingView", 1),
  ("MutableMapping", "abc.MutableMapping", 2), ("MutableSequence", "abc.MutableSequence", 1),
  ("MutableSet", "abc.MutableSet", 1), ("Sequence", "abc.Sequence", 1), ("Sized", "abc.Sized", 0),
  ("ValuesView", "abc.ValuesView", 1), ("Awaitable", "abc.Awaitable", 1),
  ("AsyncIterator", "abc.AsyncIterator", 1), ("AsyncIterable", "abc.AsyncIterable", 1),
  ("Coroutine", "abc.Coroutine", 3), ("Collection", "abc.Collection", 1),
  ("AsyncGenerator", "abc.AsyncGenerator", 2),
  ("AsyncContextManager", "contextlib.AbstractAsyncContextManager", 1),
  ("Reversible", "abc.Reversible", 1), ("ChainMap", "ChainMap", 2), ("Counter", "Counter", 1),
  ("Deque", "deque", 1), ("Dict", "dict", 2), ("DefaultDict", "defaultdict", 2), ("List", "list", 1),
  ("OrderedDict", "OrderedDict", 2), ("Set", "set", 1), ("FrozenSet", "frozenset", 1),
  ("Generator", "abc.Generator", 3), ("Match", "re.Match", 1), ("Pattern", "re.Pattern", 1)]

/-- The number of arguments that a name takes. -/
def arity (name : String) : Nat := ((aliases.lookup name).map (·.2)).getD 0

/-- The special forms. -/
def forms : List SpecialForm := [
  .classVar, .final, .union, .optional, .literal, .noReturn, .never, .self, .literalString, .typeAlias,
  .concatenate, .typeGuard, .unpack, .required, .notRequired]

/-- Functions of the module of hints. -/
def hintFunctions : List String := [
  "NamedTuple", "TypedDict", "assert_never", "assert_type", "cast", "clear_overloads",
  "dataclass_transform", "final", "get_args", "get_origin", "get_overloads", "get_type_hints",
  "is_typeddict", "no_type_check", "no_type_check_decorator", "overload", "reveal_type",
  "runtime_checkable"]

/-- The hint of a name in the module of hints. -/
def ofModule? (name : String) : Option Hint :=
  (do let (origin, _) ← aliases.lookup name
      return Hint.named name (← class? origin)).orElse fun _ =>
  ((forms.find? fun (f : SpecialForm) => f.name = name).map Hint.form).orElse fun _ =>
  if hintFunctions.contains name then some (.function name)
  else if name = "AnyStr" then some anyText
  else if name = "TYPE_CHECKING" then some (.flag false)
  else none

/-! ## Names everywhere -/

/-- Hints for categories that a class does not tell. -/
def marked : List (String × Hint) := [
  ("Byte", .annotated (classHint "int") [.category .byte]),
  ("Long", .annotated (classHint "int") [.category .long]),
  ("Float32", .annotated (classHint "float") [.category .float])]

/-- Built-in values that have names. -/
def values : List (String × Hint) := [
  ("None", .nothing), ("True", .flag true), ("False", .flag false), ("Ellipsis", .ellipsis),
  ("NotImplemented", .other "NotImplementedType" "NotImplemented"), ("__debug__", .flag true),
  ("exit", .other "Quitter" "Use exit() or Ctrl-D (i.e. EOF) to exit"),
  ("quit", .other "Quitter" "Use quit() or Ctrl-D (i.e. EOF) to exit"),
  ("help", .other "_Helper" "Type help() for interactive help, or help(object) for help about object."),
  ("copyright", .other "_Printer" ""), ("credits", .other "_Printer" ""),
  ("license", .other "_Printer" "Type license() to see the full license text")]

/-- Built-in functions, whose names are no hints but stand for something. -/
def functions : List String := [
  "__build_class__", "__import__", "abs", "aiter", "all", "anext", "any", "ascii", "bin",
  "breakpoint", "callable", "chr", "compile", "delattr", "dir", "divmod", "eval", "exec", "format",
  "getattr", "globals", "hasattr", "hash", "hex", "id", "input", "isinstance", "issubclass",
  "iter", "len", "locals", "max", "min", "next", "oct", "open", "ord", "pow", "print", "repr",
  "round", "setattr", "sorted", "sum", "vars"]

/-- A built-in function. -/
def functionHint? (name : String) : Option Hint :=
  if functions.contains name then
    some (.other "builtin_function_or_method" (Hint.builtInStart ++ name ++ ">"))
  else none

/-- Known classes that go by their names everywhere. -/
def isBuiltIn (name : String) : Bool :=
  ["EnvironmentError", "IOError"].contains name ||
    (name != "NoneType" && name != "mappingproxy" &&
      entries.any fun e => e.name = name && e.moduleName = "builtins")

/-- The hint of a built-in name. -/
def builtIn? (name : String) : Option Hint :=
  (values.lookup name).orElse fun _ =>
  (functionHint? name).orElse fun _ =>
  if isBuiltIn name then (class? name).map fun c => Hint.cls c none
  else if name = "__name__" then some (.text "builtins")
  else if ["__doc__", "__package__", "__loader__", "__spec__", "__builtins__"].contains name then
    some (.other "" "")
  else none

/-- The module that a name of a hint belongs to, if the name says so. -/
def split? (name : String) : Option (String × String) :=
  let parts := Text.splitOn '.' name.toList
  match parts with
  | [front, back] =>
    if front = "typing".toList || front = "abc".toList then some (String.ofList front, String.ofList back)
    else none
  | _ => none

/-- The hint of a name. Other names with a dot are names of classes that no hint can refer to. -/
def hint? (name : String) : Option Hint :=
  let known := (class? name).map fun c => Hint.cls c none
  match split? name with
  | some ("typing", rest) => known.orElse fun _ => ofModule? rest
  | some _ => known
  | none =>
    if name.toList.contains '.' then none
    else ((marked.lookup name).orElse fun _ => known).orElse fun _ => builtIn? name

/-- The hint of a name, or the failure that there is none. -/
def find (name : String) : Except Failure Hint :=
  match hint? name with
  | some h => .ok h
  | none =>
    let (home, rest) :=
      match split? name with
      | some ("abc", rest) => ("collections.abc", rest)
      | some found => found
      | none => ("builtins", name)
    .error (.raised "AttributeError"
      ("module " ++ Text.quoted home ++ " has no attribute " ++ Text.quoted rest))

/-! ## Modules -/

/-- The module in whose place texts are evaluated that belong to no module. -/
def readingModule : String := "inspect"

/-- Modules that are there before a host type is described. -/
def modules : List String := Text.words (
    "abc argparse array ast asyncio atexit base64 binascii bisect builtins bz2 calendar cmath " ++
    "codecs collections collections.abc concurrent concurrent.futures contextlib contextvars " ++
    "copy copyreg csv dataclasses datetime decimal difflib dis email email.errors email.header " ++
    "email.message email.parser email.utils encodings enum errno fnmatch fractions functools gc " ++
    "genericpath gettext glob gzip hashlib heapq hmac html http http.client http.cookies " ++
    "importlib importlib.abc importlib.machinery importlib.metadata importlib.resources " ++
    "importlib.util inspect io ipaddress itertools json json.decoder json.encoder json.scanner " ++
    "keyword linecache locale logging logging.handlers lzma marshal math mimetypes " ++
    "multiprocessing ntpath numbers opcode operator os os.path pathlib pickle pkgutil platform " ++
    "posix posixpath pprint queue quopri random re reprlib secrets select selectors shutil " ++
    "signal site socket sqlite3 ssl stat statistics string struct subprocess sys sysconfig " ++
    "tempfile textwrap threading time token tokenize traceback types typing unicodedata urllib " ++
    "urllib.error urllib.parse urllib.request uuid warnings weakref zipfile zipimport zlib " ++
    "zoneinfo annotated_types anyio fastapi greenlet idna pydantic pydantic.fields pydantic.main " ++
    "pydantic_core schemaguard schemaguard.core schemaguard.core.config schemaguard.core.errors " ++
    "schemaguard.core.logging schemaguard.schemas schemaguard.schemas.attributes " ++
    "schemaguard.schemas.hints schemaguard.services schemaguard.services.introspection " ++
    "sqlalchemy sqlalchemy.orm starlette typing_extensions")

/-- Modules whose names are those of the module of hints. -/
def hintModules : List String := ["typing", "typing_extensions"]

/-- The hint of a name in a module that is there. -/
def moduleMember? (moduleName name : String) : Option Hint :=
  let ownClass := (entries.find? fun e => e.moduleName = moduleName && lastPart e.name = name).bind
    fun e => (class? e.name).map fun c => Hint.cls c none
  if moduleName = "builtins" then builtIn? name
  else if hintModules.contains moduleName then hint? ("typing." ++ name)
  else if moduleName = "schemaguard.schemas.hints" then
    (marked.lookup name).orElse fun _ => if name = "FieldCategory" then hint? name else none
  else if moduleName = readingModule && name = "OrderedDict" then hint? name
  else ownClass

end SchemaRegistry.Catalogue
