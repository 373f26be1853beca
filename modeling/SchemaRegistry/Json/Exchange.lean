import SchemaRegistry.Json.Reader
import SchemaRegistry.Text.Utf8

/-!
# Reading exchanged JSON

Schemas are exchanged as JSON text. This reader is stricter than the one for stored text: an escape may not
name half a character, a number is not cut short, and arrays and objects may not be nested deeper than
`maxDepth`. It counts bytes, so that a fault names a line and a column, and says what it stopped at.

Every function takes the offset of the first byte of its text and answers the value with the offset and the
bytes that follow it.
-/

namespace SchemaRegistry.Json.Exchange

open Number (Binary64 digitsValue)

/-- Why a text is not exchanged JSON. -/
inductive Reason where
  /-- The text ends inside an array. -/
  | openList
  /-- The text ends inside an object. -/
  | openObject
  /-- The text ends inside a string. -/
  | openString
  /-- The text ends where a value or the rest of one was expected. -/
  | noValue
  | colon
  | listComma
  | objectComma
  | trailingComma
  | name
  | word
  | value
  | number
  | numberRange
  | control
  | escape
  /-- The first half of a character without the second. -/
  | halfCharacter
  /-- The second half of a character without the first, or a first half before another number. -/
  | loneHalf
  | depth
  | extra
deriving DecidableEq, Repr

/-- The wording of a reason. -/
def Reason.message : Reason → String
  | openList => "EOF while parsing a list"
  | openObject => "EOF while parsing an object"
  | openString => "EOF while parsing a string"
  | noValue => "EOF while parsing a value"
  | colon => "expected `:`"
  | listComma => "expected `,` or `]`"
  | objectComma => "expected `,` or `\x7d`"
  | trailingComma => "trailing comma"
  | name => "key must be a string"
  | word => "expected ident"
  | value => "expected value"
  | number => "invalid number"
  | numberRange => "number out of range"
  | control => "control character (\\u0000-\\u001F) found while parsing a string"
  | escape => "invalid escape"
  | halfCharacter => "unexpected end of hex escape"
  | loneHalf => "lone leading surrogate in hex escape"
  | depth => "recursion limit exceeded"
  | extra => "trailing characters"

/-- A fault and the number of bytes before it. -/
structure Fault where
  offset : Nat
  reason : Reason
deriving DecidableEq, Repr

/-- The bytes of a text. -/
abbrev Bytes := List Nat

/-- A value, the offset behind it and the bytes there. -/
abbrev Reading (α : Type) := Except Fault (α × Nat × Bytes)

private def stop {α : Type} (offset : Nat) (reason : Reason) : Except Fault α := .error ⟨offset, reason⟩

/-- The byte is the character `c`. -/
def isByte (b : Nat) (c : Char) : Bool := b == c.toNat

/-- The byte is a digit. -/
def isDigit (b : Nat) : Bool := 0x30 ≤ b && b ≤ 0x39

/-- Skips blanks. -/
def skipBlanks : Nat → Bytes → Nat × Bytes
  | offset, [] => (offset, [])
  | offset, b :: rest =>
    if b == 0x20 || b == 0x0A || b == 0x0D || b == 0x09 then skipBlanks (offset + 1) rest
    else (offset, b :: rest)

/-! ## Strings -/

/-- What the bytes read so far of a string still wait for. -/
inductive Pending where
  /-- An ordinary byte. -/
  | none
  /-- The byte after a backslash. -/
  | escape
  /-- `left` more hexadecimal digits, perhaps of the second half of a character. -/
  | hex (high : Option Nat) (left value : Nat)
  /-- The backslash before the second half of a character. -/
  | half (high : Nat)
  /-- The letter after that backslash. -/
  | halfEscape (high : Nat)
deriving DecidableEq, Repr

/-- Reads the rest of a string behind its opening quote. `reversed` holds the bytes so far. -/
def readString : Pending → Bytes → Nat → Bytes → Reading String
  | .hex .., _, offset, [] => stop offset .openString
  | .none, _, offset, [] => stop offset .openString
  | .escape, _, offset, [] => stop offset .openString
  | .half _, _, offset, [] => stop offset .openString
  | .halfEscape _, _, offset, [] => stop offset .openString
  | .none, reversed, offset, b :: rest =>
    if isByte b '"' then .ok (String.ofList (Text.Utf8.decode reversed.reverse), offset + 1, rest)
    else if isByte b '\\' then readString .escape reversed (offset + 1) rest
    else if b < 0x20 then stop offset .control
    else readString .none (b :: reversed) (offset + 1) rest
  | .escape, reversed, offset, b :: rest =>
    if isByte b 'u' then
      if (rest.take 4).length < 4 then stop (offset + 1 + rest.length) .openString
      else readString (.hex none 4 0) reversed (offset + 1) rest
    else
      match simpleEscape? (Char.ofNat b) with
      | some image => readString .none (image.toNat :: reversed) (offset + 1) rest
      | none => stop offset .escape
  | .half high, reversed, offset, b :: rest =>
    if isByte b '\\' then readString (.halfEscape high) reversed (offset + 1) rest
    else stop offset .halfCharacter
  | .halfEscape high, reversed, offset, b :: rest =>
    if isByte b 'u' then
      if (rest.take 4).length < 4 then stop (offset + 1 + rest.length) .openString
      else readString (.hex (some high) 4 0) reversed (offset + 1) rest
    else stop offset .halfCharacter
  | .hex high left value, reversed, offset, b :: rest =>
    match hexValue? (Char.ofNat b) with
    | none => stop offset .escape
    | some digit =>
      let value := value * 16 + digit
      if 1 < left then readString (.hex high (left - 1) value) reversed (offset + 1) rest
      else
        match high with
        | none =>
          if isLowSurrogate value then stop offset .loneHalf
          else if isHighSurrogate value then readString (.half value) reversed (offset + 1) rest
          else
            readString .none ((Text.Utf8.encode (Char.ofNat value)).reverse ++ reversed) (offset + 1) rest
        | some first =>
          if isLowSurrogate value then
            let code := 0x10000 + (first - 0xD800) * 0x400 + (value - 0xDC00)
            readString .none ((Text.Utf8.encode (Char.ofNat code)).reverse ++ reversed) (offset + 1) rest
          else stop offset .loneHalf

/-! ## Words and numbers -/

/-- Reads the rest of a word. -/
def readWord (value : Json) : Bytes → Nat → Bytes → Reading Json
  | [], offset, bs => .ok (value, offset, bs)
  | _ :: _, offset, [] => stop offset .noValue
  | w :: word, offset, b :: rest =>
    if b = w then readWord value word (offset + 1) rest else stop offset .word

/-- Reads digits, of which there must be one. -/
def readDigits (offset : Nat) (bs : Bytes) : Reading Bytes :=
  match bs with
  | [] => stop offset .noValue
  | b :: _ =>
    if isDigit b then
      let digits := bs.takeWhile isDigit
      .ok (digits, offset + digits.length, bs.drop digits.length)
    else stop offset .number

/-- Reads the exponent of a number, if there is one. -/
def readExponent (offset : Nat) (bs : Bytes) : Reading (Option Int) :=
  match bs with
  | b :: rest =>
    if isByte b 'e' || isByte b 'E' then
      let (negative, signs) :=
        match rest with
        | s :: _ => (isByte s '-', if isByte s '-' || isByte s '+' then 1 else 0)
        | [] => (false, 0)
      match readDigits (offset + 1 + signs) (rest.drop signs) with
      | .error e => .error e
      | .ok (digits, offset, rest) =>
        let value : Int := digitsValue (digits.map Char.ofNat)
        .ok (some (if negative then -value else value), offset, rest)
    else .ok (none, offset, bs)
  | [] => .ok (none, offset, bs)

/-- Reads the fraction of a number, if there is one: the digits after the point. -/
def readFraction (offset : Nat) (bs : Bytes) : Reading (Option Bytes) :=
  match bs with
  | b :: rest =>
    if isByte b '.' then
      match readDigits (offset + 1) rest with
      | .error e => .error e
      | .ok (digits, offset, rest) => .ok (some digits, offset, rest)
    else .ok (none, offset, bs)
  | [] => .ok (none, offset, bs)

/-- The greatest number of bytes of the whole part of a number, the sign included. -/
def maxWhole : Nat := 4300

/-- Reads the digits of the whole part of a number that begins at `start`. A zero stands alone. -/
def readWhole (start offset : Nat) (bs : Bytes) : Reading Bytes :=
  match bs with
  | [] => stop offset .noValue
  | b :: rest =>
    if isByte b '0' then
      if rest.head?.any isDigit then stop (offset + 1) .number else .ok ([b], offset + 1, rest)
    else if isDigit b then
      let digits := bs.takeWhile isDigit
      if maxWhole < offset - start + digits.length then stop (start + maxWhole + 1) .numberRange
      else .ok (digits, offset + digits.length, bs.drop digits.length)
    else stop offset .number

/-- Reads a number whose sign, if it has one, is before `offset`. -/
def readUnsigned (negative : Bool) (start offset : Nat) (bs : Bytes) :
    Except Fault (Json × Nat × Bytes) := do
  let (whole, offset, bs) ← readWhole start offset bs
  let (fraction, offset, bs) ← readFraction offset bs
  let (power, offset, bs) ← readExponent offset bs
  match fraction, power with
  | none, none =>
    let value : Int := digitsValue (whole.map Char.ofNat)
    return (.int (if negative then -value else value), offset, bs)
  | fraction, power =>
    let places := fraction.getD []
    let digits := digitsValue ((whole ++ places).map Char.ofNat)
    return (.float (.ofDecimal negative digits (power.getD 0 - places.length)), offset, bs)

/-- The bytes of an ASCII word. -/
def bytesOf (word : String) : Bytes := word.toList.map Char.toNat

/-- Reads a word or a number. -/
def readAtom (offset : Nat) (bs : Bytes) : Reading Json :=
  match bs with
  | [] => stop offset .noValue
  | b :: rest =>
    let word (name : String) (value : Json) : Reading Json := readWord value (bytesOf name) (offset + 1) rest
    if isByte b 't' then word "rue" (.bool true)
    else if isByte b 'f' then word "alse" (.bool false)
    else if isByte b 'n' then word "ull" .null
    else if isByte b 'N' then word "aN" (.float .nan)
    else if isByte b 'I' then word "nfinity" (.float (.infinite false))
    else if isByte b '-' then
      match rest with
      | next :: more =>
        if isByte next 'I' then readWord (.float (.infinite true)) (bytesOf "nfinity") (offset + 2) more
        else readUnsigned true offset (offset + 1) rest
      | [] => readUnsigned true offset (offset + 1) rest
    else if isDigit b then readUnsigned false offset offset bs
    else stop offset .value

/-! ## Values -/

/-- The greatest number of arrays and objects around a value. -/
def maxDepth : Nat := 200

/-- Reads the rest of a name, a colon and the blanks before the value, which must be there. -/
def readName (offset : Nat) (bs : Bytes) : Except Fault (String × Nat × Bytes) := do
  let (name, offset, bs) ← readString .none [] offset bs
  match skipBlanks offset bs with
  | (offset, []) => stop offset .openObject
  | (offset, b :: rest) =>
    if isByte b ':' then
      match skipBlanks (offset + 1) rest with
      | (offset, []) => stop offset .noValue
      | (offset, rest) => return (name, offset, rest)
    else stop offset .colon

mutual

/-- Reads a value that stands in `depth` arrays and objects. The fuel bounds the number of nested calls. -/
def readValue : Nat → Nat → Nat → Bytes → Reading Json
  | 0, _, offset, _ => stop offset .noValue
  | _ + 1, _, offset, [] => stop offset .noValue
  | fuel + 1, depth, offset, b :: rest =>
    if isByte b '"' then
      match readString .none [] (offset + 1) rest with
      | .error e => .error e
      | .ok (s, offset, rest) => .ok (.str s, offset, rest)
    else if isByte b '[' then
      match skipBlanks (offset + 1) rest with
      | (offset, []) => stop offset .openList
      | (offset, b :: rest) =>
        if isByte b ']' then .ok (.arr [], offset + 1, rest)
        else if maxDepth ≤ depth then stop offset .depth
        else
          match readItems fuel (depth + 1) offset (b :: rest) with
          | .error e => .error e
          | .ok (items, offset, rest) => .ok (.arr items, offset, rest)
    else if isByte b '\x7b' then
      match skipBlanks (offset + 1) rest with
      | (offset, []) => stop offset .openObject
      | (offset, b :: rest) =>
        if isByte b '\x7d' then .ok (.obj [], offset + 1, rest)
        else if isByte b '"' then
          match readName (offset + 1) rest with
          | .error e => .error e
          | .ok (name, offset, rest) =>
            if maxDepth ≤ depth then stop offset .depth
            else
              match readFields fuel (depth + 1) name offset rest with
              | .error e => .error e
              | .ok (fields, offset, rest) => .ok (.obj fields, offset, rest)
        else stop offset .name
    else readAtom offset (b :: rest)

/-- Reads the items of an array and its closing bracket. -/
def readItems : Nat → Nat → Nat → Bytes → Reading (List Json)
  | 0, _, offset, _ => stop offset .noValue
  | fuel + 1, depth, offset, bs =>
    match readValue fuel depth offset bs with
    | .error e => .error e
    | .ok (item, offset, rest) =>
      match skipBlanks offset rest with
      | (offset, []) => stop offset .openList
      | (offset, b :: rest) =>
        if isByte b ']' then .ok ([item], offset + 1, rest)
        else if isByte b ',' then
          match skipBlanks (offset + 1) rest with
          | (offset, []) => stop offset .noValue
          | (offset, b :: rest) =>
            if isByte b ']' then stop offset .trailingComma
            else
              match readItems fuel depth offset (b :: rest) with
              | .error e => .error e
              | .ok (items, offset, rest) => .ok (item :: items, offset, rest)
        else stop offset .listComma

/-- Reads the value of the field `name`, further fields and the closing brace of an object. -/
def readFields : Nat → Nat → String → Nat → Bytes → Reading (List (String × Json))
  | 0, _, _, offset, _ => stop offset .noValue
  | fuel + 1, depth, name, offset, bs =>
    match readValue fuel depth offset bs with
    | .error e => .error e
    | .ok (value, offset, rest) =>
      match skipBlanks offset rest with
      | (offset, []) => stop offset .openObject
      | (offset, b :: rest) =>
        if isByte b '\x7d' then .ok ([(name, value)], offset + 1, rest)
        else if isByte b ',' then
          match skipBlanks (offset + 1) rest with
          | (offset, []) => stop offset .noValue
          | (offset, b :: rest) =>
            if isByte b '"' then
              match readName (offset + 1) rest with
              | .error e => .error e
              | .ok (next, offset, rest) =>
                match readFields fuel depth next offset rest with
                | .error e => .error e
                | .ok (fields, offset, rest) => .ok ((name, value) :: fields, offset, rest)
            else if isByte b '\x7d' then stop offset .trailingComma
            else stop offset .name
        else stop offset .objectComma

end

/-- Reads bytes that are one value with blanks around it. -/
def readBytes (bs : Bytes) : Except Fault Json :=
  let (offset, rest) := skipBlanks 0 bs
  match readValue (2 * bs.length + 2) 0 offset rest with
  | .error e => .error e
  | .ok (value, offset, rest) =>
    match skipBlanks offset rest with
    | (_, []) => .ok value
    | (offset, _ :: _) => stop offset .extra

/-- The line and the column of an offset, from the line and column before `bs`. A line end is column 0 of
the line behind it; the end of the text is in the column of its last byte. -/
def position (line column : Nat) : Nat → Bytes → Nat × Nat
  | _, [] => (line, column)
  | offset, b :: rest =>
    let (line, column) := if isByte b '\n' then (line + 1, 0) else (line, column + 1)
    match offset with
    | 0 => (line, column)
    | offset + 1 => position line column offset rest

/-- The wording of a fault in bytes. -/
def Fault.message (bs : Bytes) (fault : Fault) : String :=
  let (line, column) := position 1 0 fault.offset bs
  "Invalid JSON: " ++ fault.reason.message ++ " at line " ++ toString line ++ " column " ++ toString column

/-- Reads a text that is one value with blanks around it, or says what is wrong with it. -/
def read (text : String) : Except String Json :=
  let bs := text.toList.flatMap Text.Utf8.encode
  match readBytes bs with
  | .ok value => .ok value
  | .error fault => .error (fault.message bs)

end SchemaRegistry.Json.Exchange
