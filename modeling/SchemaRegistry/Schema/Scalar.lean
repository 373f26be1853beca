import SchemaRegistry.Schema.BoundedText
import SchemaRegistry.Schema.Checked

/-!
# Checking scalars, lists and fields

The checks from which the models are put together. An object is read only by looking its fields up, so
unknown fields are ignored and of a repeated field the last value counts.
-/

namespace SchemaRegistry

namespace Checked

variable {α β : Type}

/-! ## Scalars -/

/-- Any text. -/
def text : Json → Checked String
  | .str s => accepted s
  | .illFormed _ => refuse .brokenText
  | _ => refuse .notText

/-- Any string. A text is asked for only where its characters are looked at, and here they are not. -/
def looseText : Json → Checked LooseText
  | .str s => accepted s
  | .illFormed s => accepted s
  | _ => refuse .notText

/-- Why a length is outside limits. -/
def lengthCause (limits : Limits) (length : Nat) : Cause :=
  if length < limits.least then .tooShort limits.least else .tooLong (limits.most.getD 0)

/-- A text within limits. -/
def bounded (limits : Limits) (value : Json) : Checked (BoundedText limits) :=
  (text value).andThen fun s =>
    if fits : limits.Admit s.length then accepted ⟨s, fits⟩
    else refuse (lengthCause limits s.length)

/-- A text that is within limits once it is trimmed. -/
def trimmed (limits : Limits) (value : Json) : Checked (TrimmedText limits) :=
  (text value).andThen fun s =>
    if fits : limits.Admit (Text.trim s).length then accepted ⟨Text.trim s, fits, by simp⟩
    else refuse (lengthCause limits (Text.trim s).length)

/-- The words that say no. -/
def noWords : List String := ["0", "off", "f", "false", "n", "no"]

/-- The words that say yes. -/
def yesWords : List String := ["1", "on", "t", "true", "y", "yes"]

/-- The text with the capitals `A` to `Z` made small. -/
def smallLetters (s : String) : String := s.map Char.toLower

/-- The whole number is within 64 bits. -/
def isMachineInt (n : Int) : Bool := -Number.wordBound ≤ n && n < Number.wordBound

/-- The number of double precision is whole and strictly within 64 bits. -/
def isMachineWhole : Number.Binary64 → Bool
  | .finite _ significand exponent =>
    let (num, den) := Number.Binary64.ratio significand exponent
    num % den == 0 && num / den < Number.wordBound
  | _ => false

/-- A flag: `true` or `false`, 0 or 1, or a word that says yes or no. -/
def flag : Json → Checked Bool
  | .bool value => accepted value
  | .int n =>
    if n = 0 then accepted false
    else if n = 1 then accepted true
    else refuse (if isMachineInt n then .unclearFlag else .notFlag)
  | .float x =>
    if x.isNat 0 then accepted false
    else if x.isNat 1 then accepted true
    else refuse (if isMachineWhole x then .unclearFlag else .notFlag)
  | .str s =>
    let small := smallLetters s
    if noWords.contains small then accepted false
    else if yesWords.contains small then accepted true
    else refuse .unclearFlag
  | .illFormed _ => refuse .unclearFlag
  | _ => refuse .notFlag

/-- A member of a closed choice, given by its word. -/
def choice (α : Type) [Choice α] (value : Json) : Checked α :=
  let member? :=
    match value with
    | .str word => Choice.ofWord? word
    | _ => none
  match member? with
  | some member => accepted member
  | none => refuse (.noMember (Choice.words α))

/-- A point in time. -/
def time (value : Json) : Checked Time.DateTime :=
  match Time.ofJson value with
  | .ok stamp => accepted stamp
  | .error fault => refuse (.time fault)

/-- Nothing for `null`, else a checked value. -/
def nullable (check : Json → Checked α) : Json → Checked (Option α)
  | .null => accepted none
  | value => some <$> check value

/-! ## Lists -/

/-- Checks the items of a list, the first of which has the given index. Answers what was made of the items
that were taken and all refusals. -/
def collect (check : Json → Checked α) : Nat → List Json → List α × List Refusal
  | _, [] => ([], [])
  | index, item :: rest =>
    let (values, why) := collect check (index + 1) rest
    match (check item).under (.index index) with
    | accepted value => (value :: values, why)
    | refused here => (values, here ++ why)

/-- A list of checked items. -/
def list (check : Json → Checked α) : Json → Checked (List α)
  | .arr items =>
    match collect check 0 items with
    | (values, []) => accepted values
    | (_, why) => refused why
  | _ => refuse .notList

/-- A tuple of checked items, which may be empty. -/
def tuple (check : Json → Checked α) : Json → Checked (List α)
  | .arr items =>
    match collect check 0 items with
    | (values, []) => accepted values
    | (_, why) => refused why
  | _ => refuse .notTuple

/-- A tuple with at least one item that is taken. -/
def nonemptyTuple (check : Json → Checked α) : Json → Checked { values : List α // values ≠ [] }
  | .arr items =>
    match collect check 0 items with
    | ([], why) => refused (why ++ [⟨[], .noItems⟩])
    | (value :: values, []) => accepted ⟨value :: values, by simp⟩
    | (_, why) => refused why
  | _ => refuse .notTuple

/-! ## Fields -/

/-- The fields of an object. -/
abbrev Fields := List (String × Json)

/-- A record read from the fields of an object. -/
def record (model : Model) (check : Fields → Checked α) : Json → Checked α
  | .obj fields => check fields
  | _ => refuse (.notRecord model)

/-- A field that must be there. -/
def required (name : String) (check : Json → Checked α) (fields : Fields) : Checked α :=
  Checked.under (.name name) <|
    match Json.lookup name fields with
    | some value => check value
    | none => refuse .missing

/-- A field that has a default. -/
def withDefault (name : String) (default : α) (check : Json → Checked α) (fields : Fields) :
    Checked α :=
  match Json.lookup name fields with
  | some value => (check value).under (.name name)
  | none => accepted default

end Checked

end SchemaRegistry
