import SchemaRegistry.Json.Reader
import SchemaRegistry.Text.Utf8

/-!
# Percent encoding

In a path, `%` and two hexadecimal digits stand for a byte; the bytes are those of UTF-8. A `%` without two
digits stands for itself.
-/

namespace SchemaRegistry.Percent

/-- The bytes of a path. -/
def bytes : List Char → List Nat
  | [] => []
  | ['%'] => Text.Utf8.encode '%'
  | ['%', c] => Text.Utf8.encode '%' ++ Text.Utf8.encode c
  | '%' :: high :: low :: rest =>
    match Json.hexValue? high, Json.hexValue? low with
    | some h, some l => (h * 16 + l) :: bytes rest
    | _, _ => Text.Utf8.encode '%' ++ bytes (high :: low :: rest)
  | c :: rest => Text.Utf8.encode c ++ bytes rest
termination_by cs => cs.length

/-- The characters that a path stands for. -/
def decode (cs : List Char) : List Char := Text.Utf8.decode (bytes cs)

/-- The character stands for itself in a path. -/
def isUnreserved (c : Char) : Bool := c.isAlphanum || c == '-' || c == '.' || c == '_' || c == '~'

/-- A byte as `%` and two hexadecimal digits. -/
def encodeByte (b : Nat) : List Char :=
  ['%', (Nat.digitChar (b / 16)).toUpper, (Nat.digitChar (b % 16)).toUpper]

/-- A character in a path. -/
def encodeChar (c : Char) : List Char :=
  if isUnreserved c then [c] else (Text.Utf8.encode c).flatMap encodeByte

/-- A text as a segment of a path. -/
def encode (s : String) : String := String.ofList (s.toList.flatMap encodeChar)

end SchemaRegistry.Percent
