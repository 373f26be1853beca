import SchemaRegistry.Json.Basic
import SchemaRegistry.Number.Numeral

/-!
# Reading JSON text

The reader works on the characters of the text and counts them, so that a fault carries the offset at which
the text stops being JSON: where a value, a name, a colon or a comma was expected, at the opening quote of a
string without an end, or at the first character after a complete value. Whole numbers and numbers with a
fraction or an exponent are kept apart, and `NaN`, `Infinity` and `-Infinity` are numbers.

Every function takes the offset of the first character of its text and answers the value with the offset and
the text that follow it.
-/

namespace SchemaRegistry.Json

open Number (Binary64 isDigit digitsValue readExponent?)

/-- Why a text is not JSON. -/
inductive Reason where
  | value
  | name
  | colon
  | comma
  | unterminated
  | control
  | escape
  | extra
  /-- A whole number of so many digits, more than `maxDigits`. -/
  | tooManyDigits (count : Nat)
  /-- An array or an object in more than `maxDepth` others. -/
  | tooDeep (isArray : Bool)
deriving DecidableEq, Repr

/-- A fault and the number of characters before it. -/
structure Fault where
  offset : Nat
  reason : Reason
deriving DecidableEq, Repr

/-- A value, the offset behind it and the text there. -/
abbrev Reading (α : Type) := Except Fault (α × Nat × List Char)

private def fault {α : Type} (offset : Nat) (reason : Reason) : Except Fault α :=
  .error ⟨offset, reason⟩

/-- The blanks between the tokens of a text. -/
def isBlank (c : Char) : Bool := c = ' ' || c = '\n' || c = '\r' || c = '\t'

/-- Skips blanks. -/
def skipBlanks : Nat → List Char → Nat × List Char
  | offset, [] => (offset, [])
  | offset, c :: rest => if isBlank c then skipBlanks (offset + 1) rest else (offset, c :: rest)

/-! ## Strings -/

/-- The value of a hexadecimal digit. -/
def hexValue? (c : Char) : Option Nat :=
  let n := c.toNat
  if 0x30 ≤ n ∧ n ≤ 0x39 then some (n - 0x30)
  else if 0x41 ≤ n ∧ n ≤ 0x46 then some (n - 0x37)
  else if 0x61 ≤ n ∧ n ≤ 0x66 then some (n - 0x57)
  else none

/-- The character that a backslash and `c` stand for. -/
def simpleEscape? (c : Char) : Option Char :=
  if c = '"' ∨ c = '\\' ∨ c = '/' then some c
  else if c = 'b' then some '\x08'
  else if c = 'f' then some '\x0c'
  else if c = 'n' then some '\n'
  else if c = 'r' then some '\r'
  else if c = 't' then some '\t'
  else none

/-- `n` is the first half of a surrogate pair. -/
def isHighSurrogate (n : Nat) : Bool := 0xD800 ≤ n && n ≤ 0xDBFF

/-- `n` is the second half of a surrogate pair. -/
def isLowSurrogate (n : Nat) : Bool := 0xDC00 ≤ n && n ≤ 0xDFFF

/-- What the characters read so far of a string still wait for. -/
inductive Pending where
  /-- An ordinary character. -/
  | none
  /-- The character after the backslash at offset `start`; `high` is a first half read just before. -/
  | escape (start : Nat) (high : Option Nat)
  /-- `left` more hexadecimal digits of the number begun at offset `start`. -/
  | hex (start : Nat) (high : Option Nat) (left : Nat) (value : Nat)
  /-- The second half of a pair. -/
  | low (high : Nat)
deriving DecidableEq, Repr

/-- The contents of a string, both in reverse: its characters, and the halves of characters in it, each behind the
number of characters before it. -/
structure Contents where
  reversed : List Char := []
  halves : List (Nat × Nat) := []
deriving DecidableEq, Repr

/-- Adds a character. -/
def Contents.push (s : Contents) (c : Char) : Contents := { s with reversed := c :: s.reversed }

/-- Adds a half without its other half, if there is one. -/
def Contents.breakAt (s : Contents) : Option Nat → Contents
  | none => s
  | some half => { s with halves := (s.reversed.length, half) :: s.halves }

/-- The string with these contents. -/
def Contents.loose (s : Contents) : LooseText := ⟨String.ofList s.reversed.reverse, s.halves.reverse⟩

/-- The string literal with these contents. -/
def Contents.toJson (s : Contents) : Json := .ofLoose s.loose

/-- Takes the number of an escape. A first half waits for its second; a second half without a first is
no character. -/
def Contents.takeCode (s : Contents) (high : Option Nat) (code : Nat) : Contents × Pending :=
  match high with
  | some h =>
    if isLowSurrogate code then
      (s.push (Char.ofNat (0x10000 + (h - 0xD800) * 0x400 + (code - 0xDC00))), .none)
    else if isHighSurrogate code then (s.breakAt high, .low code)
    else ((s.breakAt high).push (Char.ofNat code), .none)
  | none =>
    if isHighSurrogate code then (s, .low code)
    else if isLowSurrogate code then (s.breakAt (some code), .none)
    else (s.push (Char.ofNat code), .none)

/-- Reads the rest of a string whose opening quote is at offset `opening`. -/
def readString (opening : Nat) : Pending → Contents → Nat → List Char → Reading Contents
  | .none, _, _, [] => fault opening .unterminated
  | .low _, _, _, [] => fault opening .unterminated
  | .escape .., _, _, [] => fault opening .unterminated
  | .hex start .., _, _, [] => fault start .escape
  | .none, s, offset, c :: rest =>
    if c = '"' then .ok (s, offset + 1, rest)
    else if c = '\\' then readString opening (.escape offset none) s (offset + 1) rest
    else if c.toNat < 0x20 then fault offset .control
    else readString opening .none (s.push c) (offset + 1) rest
  | .low high, s, offset, c :: rest =>
    if c = '"' then .ok (s.breakAt (some high), offset + 1, rest)
    else if c = '\\' then readString opening (.escape offset (some high)) s (offset + 1) rest
    else if c.toNat < 0x20 then fault offset .control
    else readString opening .none ((s.breakAt (some high)).push c) (offset + 1) rest
  | .escape start high, s, offset, c :: rest =>
    if c = 'u' then readString opening (.hex offset high 4 0) s (offset + 1) rest
    else
      match simpleEscape? c with
      | some image => readString opening .none ((s.breakAt high).push image) (offset + 1) rest
      | none => fault start .escape
  | .hex start high left value, s, offset, c :: rest =>
    match hexValue? c with
    | none => fault start .escape
    | some digit =>
      let value := value * 16 + digit
      if left ≤ 1 then
        match rest with
        | [] => fault start .escape
        | next :: more =>
          let (s, pending) := s.takeCode high value
          readString opening pending s (offset + 1) (next :: more)
      else readString opening (.hex start high (left - 1) value) s (offset + 1) rest

/-! ## Numbers -/

/-- The fraction at the start of the text: its digits without the point. -/
def readFraction (cs : List Char) : List Char :=
  match cs with
  | '.' :: rest => rest.takeWhile isDigit
  | _ => []

/-- The digits before the point: a zero stands alone. -/
def readWhole (cs : List Char) : List Char :=
  match cs with
  | '0' :: _ => ['0']
  | _ => cs.takeWhile isDigit

/-- The greatest number of digits that a whole number may have. -/
def maxDigits : Nat := 4300

/-- Reads a number. -/
def readNumber (offset : Nat) (cs : List Char) : Reading Json :=
  let (negative, signs, body) :=
    match cs with
    | '-' :: body => (true, 1, body)
    | body => (false, 0, body)
  let whole := readWhole body
  if whole.isEmpty then fault offset .value
  else
    let afterWhole := body.drop whole.length
    let fraction := readFraction afterWhole
    let fractionLength := if fraction.isEmpty then 0 else fraction.length + 1
    let afterFraction := afterWhole.drop fractionLength
    let (power, powerLength) := (readExponent? afterFraction).getD (0, 0)
    let length := signs + whole.length + fractionLength + powerLength
    let rest := cs.drop length
    if fractionLength = 0 ∧ powerLength = 0 then
      if maxDigits < whole.length then fault offset (.tooManyDigits whole.length)
      else
        let value : Int := digitsValue whole
        .ok (.int (if negative then -value else value), offset + length, rest)
    else
      let value :=
        Binary64.ofDecimal negative (digitsValue (whole ++ fraction)) (power - fraction.length)
      .ok (.float value, offset + length, rest)

/-! ## Values -/

/-- The words that stand for a value. -/
def words : List (String × Json) :=
  [("null", .null), ("true", .bool true), ("false", .bool false), ("NaN", .float .nan),
   ("Infinity", .float (.infinite false)), ("-Infinity", .float (.infinite true))]

/-- Reads a word or a number. -/
def readAtom (offset : Nat) (cs : List Char) : Reading Json :=
  match words.find? fun (word, _) => word.toList.isPrefixOf cs with
  | some (word, value) => .ok (value, offset + word.length, cs.drop word.length)
  | none => readNumber offset cs

/-- Reads the opening quote and the rest of a name. A name that is no text is answered as `none`. -/
def readName (offset : Nat) : List Char → Reading (Option String)
  | '"' :: rest =>
    match readString offset .none {} (offset + 1) rest with
    | .error e => .error e
    | .ok (s, offset, rest) =>
      .ok (s.loose.text?, offset, rest)
  | _ => fault offset .name

/-- Reads blanks, a colon and blanks. -/
def readColon (offset : Nat) (cs : List Char) : Except Fault (Nat × List Char) :=
  match skipBlanks offset cs with
  | (offset, ':' :: rest) => .ok (skipBlanks (offset + 1) rest)
  | (offset, _) => fault offset .colon

/-- The greatest number of arrays and objects that are nested in each other, if the reader has all the room of the
stack. -/
def maxDepth : Nat := 990

mutual

/-- Reads a value that stands in `depth` arrays and objects. The fuel bounds the number of nested calls. -/
def readValue : Nat → Nat → Nat → List Char → Reading Json
  | 0, _, offset, _ => fault offset .value
  | _ + 1, _, offset, [] => fault offset .value
  | fuel + 1, depth, offset, c :: rest =>
    if c = '"' then
      match readString offset .none {} (offset + 1) rest with
      | .error e => .error e
      | .ok (s, offset, rest) => .ok (s.toJson, offset, rest)
    else if c = '[' then
      if maxDepth ≤ depth then fault offset (.tooDeep true)
      else
        match skipBlanks (offset + 1) rest with
        | (offset, ']' :: rest) => .ok (.arr [], offset + 1, rest)
        | (offset, rest) =>
          match readItems fuel (depth + 1) offset rest with
          | .error e => .error e
          | .ok (items, offset, rest) => .ok (.arr items, offset, rest)
    else if c = '\x7b' then
      if maxDepth ≤ depth then fault offset (.tooDeep false)
      else
        match skipBlanks (offset + 1) rest with
        | (offset, '\x7d' :: rest) => .ok (.obj [], offset + 1, rest)
        | (offset, rest) =>
          match readFields fuel (depth + 1) offset rest with
          | .error e => .error e
          | .ok (fields, offset, rest) => .ok (.obj fields, offset, rest)
    else readAtom offset (c :: rest)

/-- Reads the items of an array and its closing bracket. -/
def readItems : Nat → Nat → Nat → List Char → Reading (List Json)
  | 0, _, offset, _ => fault offset .value
  | fuel + 1, depth, offset, cs =>
    match readValue fuel depth offset cs with
    | .error e => .error e
    | .ok (item, offset, rest) =>
      match skipBlanks offset rest with
      | (offset, ']' :: rest) => .ok ([item], offset + 1, rest)
      | (offset, ',' :: rest) =>
        match skipBlanks (offset + 1) rest with
        | (offset, rest) =>
          match readItems fuel depth offset rest with
          | .error e => .error e
          | .ok (items, offset, rest) => .ok (item :: items, offset, rest)
      | (offset, _) => fault offset .comma

/-- Reads the fields of an object and its closing brace. -/
def readFields : Nat → Nat → Nat → List Char → Reading (List (String × Json))
  | 0, _, offset, _ => fault offset .name
  | fuel + 1, depth, offset, cs =>
    match readName offset cs with
    | .error e => .error e
    | .ok (name, offset, rest) =>
      match readColon offset rest with
      | .error e => .error e
      | .ok (offset, rest) =>
        match readValue fuel depth offset rest with
        | .error e => .error e
        | .ok (value, offset, rest) =>
          let field := name.toList.map (·, value)
          match skipBlanks offset rest with
          | (offset, '\x7d' :: rest) => .ok (field, offset + 1, rest)
          | (offset, ',' :: rest) =>
            match skipBlanks (offset + 1) rest with
            | (offset, rest) =>
              match readFields fuel depth offset rest with
              | .error e => .error e
              | .ok (fields, offset, rest) => .ok (field ++ fields, offset, rest)
          | (offset, _) => fault offset .comma

end

/-- Reads a text that is one value with blanks around it. The reader is called where the stack has already
taken the room of `depth` arrays and objects. -/
def readListAt (depth : Nat) (cs : List Char) : Except Fault Json :=
  let (offset, rest) := skipBlanks 0 cs
  match readValue (2 * cs.length + 2) depth offset rest with
  | .error e => .error e
  | .ok (value, offset, rest) =>
    match skipBlanks offset rest with
    | (_, []) => .ok value
    | (offset, _ :: _) => fault offset .extra

/-- Reads a text that is one value with blanks around it, with all the room there is. -/
def readList (cs : List Char) : Except Fault Json := readListAt 0 cs

/-- Reads a text that is one value with blanks around it. -/
def read (text : String) : Except Fault Json := readList text.toList

/-! ## Limits

What the limits of the reader mean for the values that a text can stand for. -/

mutual

/-- The text of the value can be read where there is room for so many arrays and objects in each other: no whole
number in it has too many digits. -/
def fits : Nat → Json → Bool
  | _, .int value => value.natAbs < 10 ^ maxDigits
  | room + 1, .arr items => fitsItems room items
  | room + 1, .obj fields => fitsFields room fields
  | 0, .arr _ => false
  | 0, .obj _ => false
  | _, _ => true

/-- Every item can be read. -/
def fitsItems : Nat → List Json → Bool
  | _, [] => true
  | room, item :: rest => fits room item && fitsItems room rest

/-- The value of every field can be read. -/
def fitsFields : Nat → List (String × Json) → Bool
  | _, [] => true
  | room, (_, value) :: rest => fits room value && fitsFields room rest

end

end SchemaRegistry.Json
