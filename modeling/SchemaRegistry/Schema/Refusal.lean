import SchemaRegistry.Schema.Category
import SchemaRegistry.Schema.Model
import SchemaRegistry.Time.Reader

/-!
# Refusals

A value that a model does not take is refused with the place and the cause, one refusal for each fault. The
wording of a cause is decided here and nowhere else.
-/

namespace SchemaRegistry

open Time (TimeFault)

/-- One step from a value to a part of it. -/
inductive Step where
  | name (name : String)
  | index (index : Nat)
deriving DecidableEq, Repr

/-- Why a value is refused. -/
inductive Cause where
  /-- A required field is absent. -/
  | missing
  | notText
  /-- A text with an unpaired surrogate. -/
  | brokenText
  | tooShort (least : Nat)
  | tooLong (most : Nat)
  /-- A value that is no flag. -/
  | notFlag
  /-- A text or number that says neither yes nor no. -/
  | unclearFlag
  /-- A word that is none of the members of a choice. -/
  | noMember (members : List String)
  | notList
  | notTuple
  /-- A tuple without an item that was taken. -/
  | noItems
  | notRecord (model : Model)
  /-- An attribute that is no object. -/
  | notAttribute
  /-- An attribute without a kind. -/
  | noTag
  /-- An attribute with a kind that is none. -/
  | unknownTag (shown : String)
  /-- Attribute names that occur more than once. -/
  | repeatedNames (names : List String)
  | time (fault : TimeFault)
  /-- A record that cannot be changed. -/
  | frozen
  /-- A text that is not JSON, with the wording of the fault. -/
  | notJson (wording : String)
deriving DecidableEq, Repr

/-- A refused part of a value, with its place. -/
structure Refusal where
  place : List Step
  cause : Cause
deriving DecidableEq, Repr

/-- How a value came: as it is, as JSON text, or as a request to the service. It decides what a value that is
no object, list or tuple is called. -/
inductive Origin where
  | value
  | text
  | request
deriving DecidableEq, Repr

/-- The words between single quotes, with commas between them. -/
def quotedWords (words : List String) : List String := words.map fun word => "'" ++ word ++ "'"

/-- Words in a row, the last after `or`. -/
def alternatives : List String → String
  | [] => ""
  | [word] => word
  | [word, last] => word ++ " or " ++ last
  | word :: rest => word ++ ", " ++ alternatives rest

namespace Cause

/-- The wording for a value without fields to read. -/
def noFieldsMessage : String :=
  "Input should be a valid dictionary or object to extract fields from"

/-- The machine-readable kind of a cause. -/
def kind (origin : Origin) : Cause → String
  | missing => "missing"
  | notText => "string_type"
  | brokenText => "string_unicode"
  | tooShort _ => "string_too_short"
  | tooLong _ => "string_too_long"
  | notFlag => "bool_type"
  | unclearFlag => "bool_parsing"
  | noMember _ => "enum"
  | notList => "list_type"
  | notTuple => "tuple_type"
  | noItems => "too_short"
  | notRecord _ => if origin = .request then "model_attributes_type" else "model_type"
  | notAttribute => if origin = .text then "dict_type" else "model_attributes_type"
  | noTag => "union_tag_not_found"
  | unknownTag _ => "union_tag_invalid"
  | repeatedNames _ => "value_error"
  | time .wrongType => "datetime_type"
  | time (.number _) => "datetime_parsing"
  | time (.text _) => "datetime_from_date_parsing"
  | time .yearZero => "datetime_parsing"
  | frozen => "frozen_instance"
  | notJson _ => "json_invalid"

/-- The message of a cause. -/
def message (origin : Origin) : Cause → String
  | missing => "Field required"
  | notText => "Input should be a valid string"
  | brokenText => "Input should be a valid string, unable to parse raw data as a unicode string"
  | tooShort least =>
    "String should have at least " ++ toString least ++ " character" ++
      (if least = 1 then "" else "s")
  | tooLong most =>
    "String should have at most " ++ toString most ++ " character" ++ (if most = 1 then "" else "s")
  | notFlag => "Input should be a valid boolean"
  | unclearFlag => "Input should be a valid boolean, unable to interpret input"
  | noMember members => "Input should be " ++ alternatives (quotedWords members)
  | notList =>
    if origin = .text then "Input should be a valid array" else "Input should be a valid list"
  | notTuple =>
    if origin = .text then "Input should be a valid array" else "Input should be a valid tuple"
  | noItems => "Tuple should have at least 1 item after validation, not 0"
  | notRecord model =>
    match origin with
    | .value => "Input should be a valid dictionary or instance of " ++ model.title
    | .text => "Input should be an object"
    | .request => noFieldsMessage
  | notAttribute => if origin = .text then "Input should be an object" else noFieldsMessage
  | noTag => "Unable to extract tag using discriminator 'type'"
  | unknownTag shown =>
    "Input tag '" ++ shown ++ "' found using 'type' does not match any of the expected tags: " ++
      ", ".intercalate (quotedWords (Choice.words Kind))
  | repeatedNames names =>
    "Value error, attribute names must be unique (case-insensitive): " ++ ", ".intercalate names
  | time .wrongType => "Input should be a valid datetime"
  | time (.number fault) => "Input should be a valid datetime, " ++ fault.message
  | time (.text fault) => "Input should be a valid datetime or date, " ++ fault.message
  | time .yearZero => "Input should be a valid datetime, year 0 is out of range"
  | frozen => "Instance is frozen"
  | notJson wording => wording

end Cause

/-- A step as JSON. -/
def Step.toJson : Step → Json
  | .name text => .str text
  | .index n => .int n

/-- A step as text. -/
def Step.text : Step → String
  | .name text => text
  | .index n => toString n

namespace Refusal

/-- The refusal seen from a value that has the refused one as a part. -/
def under (step : Step) (r : Refusal) : Refusal := { r with place := step :: r.place }

/-- A refusal as JSON. -/
def toJson (origin : Origin) (r : Refusal) : Json :=
  .obj
    [("loc", .arr (r.place.map Step.toJson)),
     ("type", .str (r.cause.kind origin)),
     ("msg", .str (r.cause.message origin))]

end Refusal

end SchemaRegistry
