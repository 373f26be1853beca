import SchemaRegistry.Json.Basic

/-!
# Errors of the service

The errors that the registry and the reader of host types raise on their own account. They come in families;
each has a code that clients can branch on, an HTTP status, a message and details. All are written in one
envelope.
-/

namespace SchemaRegistry

/-- The families of errors. -/
inductive ErrorFamily where
  /-- No schema has a reference. -/
  | notFound
  /-- A schema with a reference is registered. -/
  | alreadyExists
  /-- A schema is not in a state that can be left. -/
  | invalidTransition
  /-- The fields of a host type cannot be read. -/
  | unresolvable
  /-- Any other error of the service. -/
  | general
deriving DecidableEq, Repr

namespace ErrorFamily

/-- The name of a family. -/
def name : ErrorFamily → String
  | notFound => "SchemaNotFoundError"
  | alreadyExists => "SchemaAlreadyExistsError"
  | invalidTransition => "InvalidStateTransitionError"
  | unresolvable => "HostTypeResolutionError"
  | general => "SchemaGuardException"

/-- The family with a name; another name is that of the general one. -/
def ofName (name : String) : ErrorFamily :=
  ([notFound, alreadyExists, invalidTransition, unresolvable].find? fun f => f.name == name).getD general

/-- The code of an error. -/
def code : ErrorFamily → String
  | notFound => "SCHEMA_NOT_FOUND"
  | alreadyExists => "SCHEMA_ALREADY_EXISTS"
  | invalidTransition => "INVALID_STATE_TRANSITION"
  | unresolvable => "HOST_TYPE_UNRESOLVABLE"
  | general => "INTERNAL_ERROR"

/-- The HTTP status of an error. -/
def status : ErrorFamily → Nat
  | notFound => 404
  | alreadyExists => 409
  | invalidTransition => 409
  | unresolvable => 422
  | general => 500

/-- The names of what an error must be told. -/
def required : ErrorFamily → List String
  | notFound => ["reference_id"]
  | alreadyExists => ["reference_id"]
  | invalidTransition => ["reference_id", "current", "target"]
  | unresolvable => ["host_type", "reason"]
  | general => ["message"]

/-- The greatest number of things that an error can be told. -/
def capacity : ErrorFamily → Nat
  | general => 2
  | family => family.required.length

/-- The names of what the details repeat: the first of what the error is told. -/
def detailNames : ErrorFamily → List String
  | unresolvable => ["host_type"]
  | general => []
  | family => family.required

/-- The message of an error that was told `told`. -/
def wording (family : ErrorFamily) (told : List String) : String :=
  let part (n : Nat) : String := told.getD n ""
  match family with
  | notFound => "Schema " ++ part 0 ++ " does not exist."
  | alreadyExists => "Schema " ++ part 0 ++ " is already registered."
  | invalidTransition =>
    "Schema " ++ part 0 ++ " cannot move from " ++ part 1 ++ " to " ++ part 2 ++ "."
  | unresolvable => "Could not read the fields of " ++ part 0 ++ ": " ++ part 1
  | general => part 0

end ErrorFamily

/-- What a client sees of an error. -/
structure ErrorReport where
  family : ErrorFamily
  message : Json
  /-- The details, `null` if there are none. -/
  details : Json

namespace ErrorReport

/-- The report of an error of a family that was told `told`. -/
def of (family : ErrorFamily) (told : List Json) : ErrorReport :=
  match family with
  | .general => ⟨.general, told.getD 0 .null, told.getD 1 .null⟩
  | family =>
    ⟨family, .str (family.wording (told.map Json.plainText)), .obj (family.detailNames.zip told)⟩

/-- An envelope. Details that say nothing are left out. -/
def envelope (code : String) (message details : Json) : Json :=
  .obj <|
    [("code", .str code), ("message", message)] ++
    if details.isVoid then [] else [("details", details)]

/-- The envelope of an error. -/
def body (r : ErrorReport) : Json := envelope r.family.code r.message r.details

/-- The text of an error. -/
def text (r : ErrorReport) : String := r.message.plainText

end ErrorReport

/-- An error of the service. -/
inductive ServiceError where
  | notFound (reference : String)
  | alreadyExists (reference : String)
  | invalidTransition (reference current target : String)
  | unresolvable (hostType reason : String)
deriving DecidableEq, Repr

namespace ServiceError

/-- The family of an error. -/
def family : ServiceError → ErrorFamily
  | notFound _ => .notFound
  | alreadyExists _ => .alreadyExists
  | invalidTransition .. => .invalidTransition
  | unresolvable .. => .unresolvable

/-- What an error was told. -/
def told : ServiceError → List String
  | notFound reference => [reference]
  | alreadyExists reference => [reference]
  | invalidTransition reference current target => [reference, current, target]
  | unresolvable hostType reason => [hostType, reason]

/-- The code of an error. -/
def code (e : ServiceError) : String := e.family.code

/-- The HTTP status of an error. -/
def status (e : ServiceError) : Nat := e.family.status

/-- The message of an error. -/
def message (e : ServiceError) : String := e.family.wording e.told

/-- The envelope of an error. -/
def body (e : ServiceError) : Json := (ErrorReport.of e.family (e.told.map Json.str)).body

end ServiceError

end SchemaRegistry
