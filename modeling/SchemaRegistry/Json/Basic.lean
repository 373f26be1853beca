import SchemaRegistry.Number.Shortest
import SchemaRegistry.Text.Loose

/-!
# JSON values

Requests, stored attribute lists and exchanged schemas are JSON. An object keeps its fields in the order of
the text, repeated names included, and looking a name up finds its last value.
-/

namespace SchemaRegistry

open Number (Binary64)

/-- A JSON value. `illFormed` is a string literal that names halves of characters, which is no text. -/
inductive Json where
  | null
  | bool (value : Bool)
  | int (value : Int)
  | float (value : Binary64)
  | str (text : String)
  | illFormed (text : LooseText)
  | arr (items : List Json)
  | obj (fields : List (String × Json))
deriving Repr

namespace Json

instance : Inhabited Json := ⟨null⟩

/-- The value of a field: the last one, if the name is repeated. -/
def lookup (name : String) : List (String × Json) → Option Json
  | [] => none
  | (key, value) :: rest =>
    match lookup name rest with
    | some later => some later
    | none => if key = name then some value else none

/-- The fields with `name` set to `value`, in its place if it is there. -/
def setField (name : String) (value : Json) : List (String × Json) → List (String × Json)
  | [] => [(name, value)]
  | (key, old) :: rest =>
    if key = name then (key, value) :: rest else (key, old) :: setField name value rest

/-- An optional text, `null` if there is none. -/
def ofText? : Option String → Json
  | none => null
  | some text => str text

/-- A text that may hold halves of characters. -/
def ofLoose (text : LooseText) : Json := if text.IsText then str text.text else illFormed text

@[simp]
theorem ofLoose_ofText (text : String) : ofLoose (.ofText text) = str text := rfl

/-- An optional one, `null` if there is none. -/
def ofLoose? : Option LooseText → Json
  | none => null
  | some text => ofLoose text

/-- A list of texts. -/
def ofTexts (texts : List String) : Json := arr (texts.map str)

/-- The value says nothing: it is `null`, false, zero or empty. -/
def isVoid : Json → Bool
  | null => true
  | bool value => !value
  | int value => value == 0
  | float value => value.isNat 0
  | str text => text.isEmpty
  | illFormed _ => false
  | arr items => items.isEmpty
  | obj fields => fields.isEmpty

/-- The name of the type of a value. -/
def typeName : Json → String
  | null => "NoneType"
  | bool _ => "bool"
  | int _ => "int"
  | float _ => "float"
  | str _ | illFormed _ => "str"
  | arr _ => "list"
  | obj _ => "dict"

/-! ## Display

How a message shows a value of any kind: texts quoted, brackets and braces spaced. -/

/-- The items of a display, with a comma and a space between two of them. -/
def joinItems : List String → String
  | [] => ""
  | [item] => item
  | item :: rest => item ++ ", " ++ joinItems rest

mutual

/-- The display of a value. -/
def display : Json → String
  | null => "None"
  | bool true => "True"
  | bool false => "False"
  | int value => toString value
  | float value => value.text
  | str text => Text.quoted text
  | illFormed text => text.quoted
  | arr items => "[" ++ joinItems (displayItems items) ++ "]"
  | obj fields => "\x7b" ++ joinItems (displayFields fields) ++ "\x7d"

/-- The displays of the items of an array. -/
def displayItems : List Json → List String
  | [] => []
  | item :: rest => display item :: displayItems rest

/-- The displays of the fields of an object. -/
def displayFields : List (String × Json) → List String
  | [] => []
  | (name, value) :: rest => (Text.quoted name ++ ": " ++ display value) :: displayFields rest

end

/-- The text of a value inside a message: a text as it is, anything else as its display. -/
def plainText : Json → String
  | str text => text
  | illFormed text => text.lossy
  | value => value.display

end Json

end SchemaRegistry
