/-!
# Names of methods

The methods and other members that built-in classes have of their own, by the name of the class. What they
are makes no difference to a field, but whether they are there does.
-/

namespace SchemaRegistry.MethodTable

/-- Members of all objects. -/
def ofObjects : List String :=
  ["__class__", "__delattr__", "__dir__", "__doc__", "__eq__", "__format__", "__ge__", "__getattribute__",
   "__getstate__", "__gt__", "__hash__", "__init__", "__init_subclass__", "__le__", "__lt__", "__ne__", "__new__",
   "__reduce__", "__reduce_ex__", "__repr__", "__setattr__", "__sizeof__", "__str__", "__subclasshook__"]

/-- Members of all classes. -/
def ofClasses : List String :=
  ["__base__", "__bases__", "__basicsize__", "__call__", "__dict__", "__dictoffset__", "__flags__",
   "__instancecheck__", "__itemsize__", "__module__", "__mro__", "__name__", "__or__", "__prepare__",
   "__qualname__", "__ror__", "__subclasscheck__", "__subclasses__", "__text_signature__", "__weakrefoffset__",
   "mro"]

/-- Operators of numbers. -/
def ofNumbers : List String :=
  ["__abs__", "__add__", "__bool__", "__getnewargs__", "__mul__", "__neg__", "__pos__", "__pow__", "__radd__",
   "__rmul__", "__rpow__", "__rsub__", "__rtruediv__", "__sub__", "__truediv__", "conjugate", "imag", "real"]

/-- Operators of numbers in a row. -/
def ofOrderedNumbers : List String :=
  ["__ceil__", "__divmod__", "__float__", "__floor__", "__floordiv__", "__int__", "__mod__", "__rdivmod__",
   "__rfloordiv__", "__rmod__", "__round__", "__trunc__", "as_integer_ratio"]

/-- Operators of values with parts. -/
def ofContainers : List String := ["__contains__", "__iter__", "__len__"]

/-- Operators of rows. -/
def ofRows : List String := ["__add__", "__getitem__", "__mul__", "__rmul__", "count", "index"]

/-- Methods of texts and of rows of bytes. -/
def ofTexts : List String :=
  ["__getnewargs__", "__mod__", "__rmod__", "capitalize", "center", "endswith", "expandtabs", "find", "isalnum",
   "isalpha", "isascii", "isdigit", "islower", "isspace", "istitle", "isupper", "join", "ljust", "lower", "lstrip",
   "maketrans", "partition", "removeprefix", "removesuffix", "replace", "rfind", "rindex", "rjust", "rpartition",
   "rsplit", "rstrip", "split", "splitlines", "startswith", "strip", "swapcase", "title", "translate", "upper",
   "zfill"]

/-- Methods of sets. -/
def ofSets : List String :=
  ["__and__", "__class_getitem__", "__or__", "__rand__", "__ror__", "__rsub__", "__rxor__", "__sub__", "__xor__",
   "copy", "difference", "intersection", "isdisjoint", "issubset", "issuperset", "symmetric_difference", "union"]

/-- Methods of rows that can change. -/
def ofChanging : List String :=
  ["__delitem__", "__iadd__", "__imul__", "__setitem__", "append", "clear", "copy", "extend", "insert", "pop",
   "remove", "reverse"]

/-- The members of a built-in class by its name. -/
def table : List (String × List String) := [
  ("int", ofNumbers ++ ofOrderedNumbers ++
    ["__and__", "__index__", "__invert__", "__lshift__", "__or__", "__rand__", "__rlshift__", "__ror__",
     "__rrshift__", "__rshift__", "__rxor__", "__xor__", "bit_count", "bit_length", "denominator", "from_bytes",
     "numerator", "to_bytes"]),
  ("float", ofNumbers ++ ofOrderedNumbers ++ ["__getformat__", "fromhex", "hex", "is_integer"]),
  ("complex", ofNumbers ++ ["__complex__"]),
  ("str", ofContainers ++ ofRows ++ ofTexts ++
    ["casefold", "encode", "format", "format_map", "isdecimal", "isidentifier", "isnumeric", "isprintable"]),
  ("bytes", ofContainers ++ ofRows ++ ofTexts ++ ["__bytes__", "decode", "fromhex", "hex"]),
  ("bytearray", ofContainers ++ ofRows ++ ofTexts ++ ofChanging ++ ["__alloc__", "decode", "fromhex", "hex"]),
  ("list", ofContainers ++ ofRows ++ ofChanging ++ ["__class_getitem__", "__reversed__", "sort"]),
  ("tuple", ofContainers ++ ofRows ++ ["__class_getitem__", "__getnewargs__"]),
  ("dict", ofContainers ++
    ["__class_getitem__", "__delitem__", "__getitem__", "__ior__", "__or__", "__reversed__", "__ror__",
     "__setitem__", "clear", "copy", "fromkeys", "get", "items", "keys", "pop", "popitem", "setdefault", "update",
     "values"]),
  ("set", ofContainers ++ ofSets ++
    ["__iand__", "__ior__", "__isub__", "__ixor__", "add", "clear", "difference_update", "discard",
     "intersection_update", "pop", "remove", "symmetric_difference_update", "update"]),
  ("frozenset", ofContainers ++ ofSets),
  ("range", ofContainers ++ ["__bool__", "__getitem__", "__reversed__", "count", "index", "start", "step", "stop"]),
  ("slice", ["indices", "start", "step", "stop"]),
  ("property",
    ["__delete__", "__get__", "__isabstractmethod__", "__set__", "__set_name__", "deleter", "fdel", "fget", "fset",
     "getter", "setter"]),
  ("memoryview",
    ["__delitem__", "__enter__", "__exit__", "__getitem__", "__iter__", "__len__", "__setitem__", "c_contiguous",
     "cast", "contiguous", "f_contiguous", "format", "hex", "itemsize", "nbytes", "ndim", "obj", "readonly",
     "release", "shape", "strides", "suboffsets", "tobytes", "tolist", "toreadonly"]),
  ("NoneType", ["__bool__"]),
  ("BaseException",
    ["__cause__", "__context__", "__dict__", "__setstate__", "__suppress_context__", "__traceback__", "add_note",
     "args", "with_traceback"]),
  ("Enum",
    ["__copy__", "__deepcopy__", "__dict__", "__module__", "__weakref__", "_generate_next_value_", "_member_map_",
     "_member_names_", "_member_type_", "_missing_", "_new_member_", "_unhashable_values_", "_use_args_",
     "_value2member_map_", "_value_repr_"]),
  ("EnumType", ["__contains__", "__getitem__", "__iter__", "__len__", "__members__", "__reversed__"]),
  ("ABCMeta", ["register", "__abstractmethods__"]),
  ("function",
    ["__annotations__", "__builtins__", "__call__", "__closure__", "__code__", "__defaults__", "__dict__",
     "__get__", "__globals__", "__kwdefaults__", "__module__", "__name__", "__qualname__"]),
  ("builtin_function_or_method",
    ["__call__", "__module__", "__name__", "__qualname__", "__self__", "__text_signature__"]),
  ("NewType",
    ["__call__", "__dict__", "__module__", "__mro_entries__", "__name__", "__or__", "__qualname__", "__ror__",
     "__weakref__"]),
  ("TypeVar",
    ["__bound__", "__constraints__", "__contravariant__", "__covariant__", "__dict__", "__module__",
     "__mro_entries__", "__name__", "__or__", "__ror__", "__typing_subst__"]),
  ("ForwardRef",
    ["__forward_arg__", "__forward_code__", "__forward_evaluated__", "__forward_is_argument__",
     "__forward_is_class__", "__forward_module__", "__forward_value__", "__module__", "__or__", "__ror__",
     "_evaluate"]),
  ("InitVar", ["__module__"]),
  ("types.UnionType", ["__getitem__", "__or__", "__parameters__", "__ror__"])]

/-- A class has a member of its own by a name. -/
def has (typeName name : String) : Bool :=
  ((table.lookup typeName).getD []).contains name

/-- All objects have a member by a name. -/
def inObjects (name : String) : Bool := ofObjects.contains name

/-- All classes have a member by a name. -/
def inClasses (name : String) : Bool := inObjects name || ofClasses.contains name

end SchemaRegistry.MethodTable
