import SchemaRegistry.Json.Basic

/-!
# Writing JSON text

Two forms are written. `compact` has no blanks and keeps every character that need not be escaped.
`spaced` puts a space after each comma and colon and escapes everything outside printable ASCII, characters
beyond U+FFFF as a surrogate pair.
-/

namespace SchemaRegistry.Json

/-- What a form of JSON text decides. -/
structure Style where
  /-- What stands between two items. -/
  separator : List Char
  /-- What stands between a name and its value. -/
  colon : List Char
  /-- The character need not be escaped. -/
  keeps : Char → Bool

/-- `\u` and four hexadecimal digits. -/
def unicodeEscape (n : Nat) : List Char := '\\' :: 'u' :: Text.hexDigits 4 n

/-- The escape of a character by its number, in two halves beyond U+FFFF. -/
def numericEscape (c : Char) : List Char :=
  if c.toNat < 0x10000 then unicodeEscape c.toNat
  else
    unicodeEscape (0xD800 + (c.toNat - 0x10000) / 0x400) ++
      unicodeEscape (0xDC00 + (c.toNat - 0x10000) % 0x400)

/-- A character inside a string literal. -/
def escapeChar (style : Style) (c : Char) : List Char :=
  if c = '"' then ['\\', '"']
  else if c = '\\' then ['\\', '\\']
  else if c = '\n' then ['\\', 'n']
  else if c = '\r' then ['\\', 'r']
  else if c = '\t' then ['\\', 't']
  else if c = '\x08' then ['\\', 'b']
  else if c = '\x0c' then ['\\', 'f']
  else if style.keeps c then [c]
  else numericEscape c

/-- A string literal. -/
def writeString (style : Style) (text : String) : List Char :=
  '"' :: text.toList.flatMap (escapeChar style) ++ ['"']

/-- The literal of a string that may hold halves of characters, which are escaped by number. -/
def writeLoose (style : Style) (text : LooseText) : List Char :=
  let unit : Char ⊕ Nat → List Char
    | .inl c => escapeChar style c
    | .inr half => unicodeEscape half
  '"' :: text.units.flatMap unit ++ ['"']

/-- The literal of a number of double precision. -/
def floatLiteral : Number.Binary64 → String
  | .nan => "NaN"
  | .infinite negative => if negative then "-Infinity" else "Infinity"
  | x => x.text

mutual

/-- The text of a value. -/
def write (style : Style) : Json → List Char
  | .null => "null".toList
  | .bool true => "true".toList
  | .bool false => "false".toList
  | .int value => (toString value).toList
  | .float value => (floatLiteral value).toList
  | .str text => writeString style text
  | .illFormed text => writeLoose style text
  | .arr items => '[' :: writeItems style items ++ [']']
  | .obj fields => '\x7b' :: writeFields style fields ++ ['\x7d']

/-- The items of an array. -/
def writeItems (style : Style) : List Json → List Char
  | [] => []
  | [item] => write style item
  | item :: next :: rest =>
    write style item ++ style.separator ++ writeItems style (next :: rest)

/-- The fields of an object. -/
def writeFields (style : Style) : List (String × Json) → List Char
  | [] => []
  | [(name, value)] => writeString style name ++ style.colon ++ write style value
  | (name, value) :: next :: rest =>
    writeString style name ++ style.colon ++ write style value ++ style.separator ++
      writeFields style (next :: rest)

end

/-- No blanks, and only control characters are escaped by number. -/
def compactStyle : Style where
  separator := [',']
  colon := [':']
  keeps c := 0x20 ≤ c.toNat

/-- A space after commas and colons, and all but printable ASCII is escaped. -/
def spacedStyle : Style where
  separator := [',', ' ']
  colon := [':', ' ']
  keeps c := 0x20 ≤ c.toNat && c.toNat ≤ 0x7E

/-- The text without blanks. -/
def compact (value : Json) : String := String.ofList (write compactStyle value)

mutual

/-- No string in the value holds halves of characters. -/
def isText : Json → Bool
  | .illFormed _ => false
  | .arr items => areTexts items
  | .obj fields => haveTexts fields
  | _ => true

/-- Nor in any of the items. -/
def areTexts : List Json → Bool
  | [] => true
  | item :: rest => isText item && areTexts rest

/-- Nor in the value of any of the fields. -/
def haveTexts : List (String × Json) → Bool
  | [] => true
  | (_, value) :: rest => isText value && haveTexts rest

end

/-- The text without blanks, if it can be given in UTF-8. -/
def compact? (value : Json) : Option String := if value.isText then some value.compact else none

/-- The text in ASCII, with a space after commas and colons. -/
def spaced (value : Json) : String := String.ofList (write spacedStyle value)

end SchemaRegistry.Json
