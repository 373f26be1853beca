import SchemaRegistry.Json.Reader
import SchemaRegistry.Schema.Checked
import SchemaRegistry.ServiceError
import SchemaRegistry.Time.Stored

/-!
# Failures

Every way in which an operation can end without its answer. A failure is told by its kind and, for some
kinds, a message.
-/

namespace SchemaRegistry

/-- A class of exceptions. -/
structure ExceptionClass where
  name : String
  /-- The names of the exceptions of the language that it is one of. -/
  lineage : List String
deriving DecidableEq, Repr

namespace ExceptionClass

/-- Exceptions of the language that are special cases of others. -/
def specialCases : List (String × List String) := [
  ("UnboundLocalError", ["NameError"]), ("IndentationError", ["SyntaxError"]),
  ("TabError", ["IndentationError", "SyntaxError"]), ("FrozenInstanceError", ["AttributeError"])]

/-- The exception of the language with a name. -/
def ofName (name : String) : ExceptionClass := ⟨name, name :: (specialCases.lookup name).getD []⟩

instance : Coe String ExceptionClass := ⟨ofName⟩

end ExceptionClass

/-- Why an operation failed. -/
inductive Failure where
  /-- A model refused its input. -/
  | refused (why : List Refusal)
  | service (error : ServiceError)
  /-- A value that is no member of a choice that goes by the name `family`. -/
  | noMember (value : Json) (family : String)
  /-- A stored text that is not JSON. -/
  | notJson
  /-- A whole number with so many digits, which are too many. -/
  | tooManyDigits (count : Nat)
  /-- Arrays and objects that are nested too deep, the last one an array or not. -/
  | tooDeep (isArray : Bool)
  /-- A stored value of another type than a text where JSON is expected. -/
  | notJsonText (typeName : String)
  /-- A stored word that is no member of its choice. -/
  | unknownStoredWord
  /-- A text that is no point in time. -/
  | notTime (fault : Time.StoredFault) (text : String)
  /-- The clock shows a day that the calendar does not have. -/
  | clockOutOfRange
  /-- The database cannot do what it is told. -/
  | operational
  /-- The database refuses a row. -/
  | integrity
  /-- The database is told too few values. -/
  | unbound
  /-- A value that is no list of values. -/
  | notIterable (typeName : String)
  /-- A field that a request does not have. -/
  | noField (model : Model) (name : String)
  /-- A field of a record that is computed and cannot be set; `title` names the record. -/
  | noSetter (title name : String)
  /-- A field that records have in common and that cannot be set on one of them. -/
  | commonField (title name : String)
  /-- The fields of a record can only be replaced by fields. -/
  | notFields (typeName : String)
  /-- A record cannot change its type to a value. -/
  | notRecordType (typeName : String)
  /-- A part of a record that nobody can set. -/
  | readOnly (title name : String)
  /-- The table has no such column. -/
  | noColumn (name : String)
  /-- An attribute without a kind cannot be built. -/
  | abstract
  /-- A variant without a category cannot be declared. -/
  | noCategory (name : String)
  /-- A variant cannot have a name with a zero character. -/
  | zeroInName
  /-- An error of the service that is told too little or too much. -/
  | miscounted (family : ErrorFamily) (told : Nat)
  /-- A request cannot be put into a set. -/
  | unhashable (model : Model)
  /-- A text that is no whole number. -/
  | notInteger (text : String)
  /-- A variable with a zero character in its name or value. -/
  | zeroInVariable
  /-- A variable with an equals sign in its name. -/
  | variableName
  /-- A variable without a name. -/
  | namelessVariable
  /-- A variable with a value that is no text. -/
  | variableValue (typeName : String)
  /-- A layout that shows nothing of an event. -/
  | badLayout (text : String)
  /-- Any other failure, told by its exception and its message. -/
  | raised (exception : ExceptionClass) (message : String)

namespace Failure

/-- Kinds of failure that are told without a message. -/
def silentKinds : List String :=
  ["JSONDecodeError", "LookupError", "IndexError", "OperationalError", "IntegrityError",
    "StatementError"]

/-- The kind of a failure. -/
def kind : Failure → String
  | refused _ => "ValidationError"
  | service error => error.family.name
  | noMember .. => "ValueError"
  | notJson => "JSONDecodeError"
  | tooManyDigits _ => "ValueError"
  | tooDeep _ => "RecursionError"
  | notJsonText _ => "TypeError"
  | unknownStoredWord => "LookupError"
  | notTime fault _ => if fault = .number then "TypeError" else "ValueError"
  | clockOutOfRange => "OverflowError"
  | operational => "OperationalError"
  | integrity => "IntegrityError"
  | unbound => "StatementError"
  | notIterable _ => "TypeError"
  | noField .. => "ValueError"
  | noSetter .. => "AttributeError"
  | commonField .. => "AttributeError"
  | notFields _ => "TypeError"
  | notRecordType _ => "TypeError"
  | readOnly .. => "AttributeError"
  | noColumn _ => "TypeError"
  | abstract => "TypeError"
  | noCategory _ => "TypeError"
  | zeroInName => "ValueError"
  | miscounted .. => "TypeError"
  | unhashable _ => "TypeError"
  | notInteger _ => "ValueError"
  | zeroInVariable => "ValueError"
  | variableName => "ValueError"
  | namelessVariable => "OSError"
  | variableValue _ => "TypeError"
  | badLayout _ => "ValueError"
  | raised exception _ => exception.name

/-- The exception that a failure is. -/
def exception : Failure → ExceptionClass
  | raised exception _ => exception
  | failure => failure.kind

/-- The failure is an exception of the language of one of some names, or a special case of it. -/
def isAmong (names : List String) (failure : Failure) : Bool := names.any failure.exception.lineage.contains

/-- Names in a row, quoted, the last after `and`. -/
def nameList (names : List String) : String :=
  match names.map Text.quoted with
  | [] => ""
  | [name] => name
  | [name, last] => name ++ " and " ++ last
  | names => ", ".intercalate names.dropLast ++ ", and " ++ names.getLastD ""

/-- The message for an error that is told too little or too much. What builds it is counted too. -/
def countMessage (family : ErrorFamily) (told : Nat) : String :=
  let plural (n : Nat) : String := if n = 1 then "" else "s"
  let missing := family.required.drop told
  let least := family.required.length
  family.name ++ ".__init__() " ++
    if missing.isEmpty then
      "takes " ++ (if least < family.capacity then "from " ++ toString (least + 1) ++ " to " else "") ++
        toString (family.capacity + 1) ++ " positional argument" ++ plural (family.capacity + 1) ++ " but " ++
        toString (told + 1) ++ " were given"
    else
      "missing " ++ toString missing.length ++ " required positional argument" ++ plural missing.length ++
        ": " ++ nameList missing

/-- The message of a failure. -/
def message : Failure → String
  | refused _ => ""
  | service error => error.message
  | noMember value family => value.display ++ " is not a valid " ++ family
  | notJson => ""
  | tooManyDigits count =>
    "Exceeds the limit (4300 digits) for integer string conversion: value has " ++ toString count ++
      " digits; use sys.set_int_max_str_digits() to increase the limit"
  | tooDeep isArray =>
    "maximum recursion depth exceeded while decoding a JSON " ++ (if isArray then "array" else "object") ++
      " from a unicode string"
  | notJsonText typeName => "the JSON object must be str, bytes or bytearray, not " ++ typeName
  | unknownStoredWord => ""
  | notTime fault text => fault.message text
  | clockOutOfRange => "date value out of range"
  | operational => ""
  | integrity => ""
  | unbound => ""
  | notIterable typeName => Text.quoted typeName ++ " object is not iterable"
  | noSetter title name =>
    "property " ++ Text.quoted name ++ " of " ++ Text.quoted title ++ " object has no setter"
  | commonField title name =>
    Text.quoted name ++ " is a ClassVar of `" ++ title ++ "` and cannot be set on an instance. " ++
      "If you want to set a value on the class, use `" ++ title ++ "." ++ name ++ " = value`."
  | notFields typeName => "__dict__ must be set to a dictionary, not a " ++ Text.quoted typeName
  | notRecordType typeName => "__class__ must be set to a class, not " ++ Text.quoted typeName ++ " object"
  | readOnly title name =>
    "attribute " ++ Text.quoted name ++ " of " ++ Text.quoted title ++ " objects is not writable"
  | noField model name => "\"" ++ model.title ++ "\" object has no field \"" ++ name ++ "\""
  | noColumn name => Text.quoted name ++ " is an invalid keyword argument for SchemaRecord"
  | abstract => "SchemaAttribute is abstract; instantiate one of its kinds"
  | noCategory name => name ++ " must declare a required_category"
  | zeroInName => "type name must not contain null characters"
  | miscounted family told => countMessage family told
  | unhashable model => "unhashable type: " ++ Text.quoted model.title
  | notInteger text =>
    "invalid literal for int() with base 10: " ++ String.ofList ((Text.quoted text).toList.take 200)
  | zeroInVariable => "embedded null byte"
  | variableName => "illegal environment variable name"
  | namelessVariable => "[Errno 22] Invalid argument"
  | variableValue typeName => "str expected, not " ++ typeName
  | badLayout text => "Invalid format '" ++ text ++ "' for '%' style"
  | raised _ message => message

/-- The failure of a stored text that is not JSON. -/
def ofJson (fault : Json.Fault) : Failure :=
  match fault.reason with
  | .tooManyDigits count => .tooManyDigits count
  | .tooDeep isArray => .tooDeep isArray
  | _ => .notJson

/-- A failure as the fields of an answer. -/
def toFields (origin : Origin) (f : Failure) : List (String × Json) :=
  ("error", .str f.kind) ::
    match f with
    | refused why => [("errors", .arr (why.map (Refusal.toJson origin)))]
    | service error =>
      [("message", .str error.message), ("status", .int error.status), ("body", error.body)]
    | f => if silentKinds.contains f.kind then [] else [("message", .str f.message)]

/-- A failure as JSON. -/
def toJson (origin : Origin) (f : Failure) : Json := .obj (f.toFields origin)

end Failure

/-- The report of an error of a family, if it is told neither too little nor too much. -/
def ErrorReport.build (family : ErrorFamily) (told : List Json) : Except Failure ErrorReport :=
  if family.required.length ≤ told.length ∧ told.length ≤ family.capacity then .ok (.of family told)
  else .error (.miscounted family told.length)

/-- The checked value, or the failure that its refusals are. -/
def Checked.run {α : Type} : Checked α → Except Failure α
  | accepted value => .ok value
  | refused why => .error (.refused why)

/-- A computation has the value that it succeeds with. -/
theorem eq_ok_of_toOption {ε α : Type} {x : Except ε α} {a : α} (h : x.toOption = some a) : x = .ok a := by
  cases x with
  | error e => cases h
  | ok b =>
    cases h
    rfl

end SchemaRegistry
