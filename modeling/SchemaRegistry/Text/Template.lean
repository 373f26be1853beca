import SchemaRegistry.Json.Basic
import SchemaRegistry.Number.Fixed
import SchemaRegistry.Text.Digits

/-!
# Templates

A template is a text with directives in it. A directive starts with `%`, may name the value it shows between
brackets, and ends with a character that says how the value is written; flags, a width and a precision may
stand between. Filling a template puts the values into their places. It fails if there are too few values or
too many, or if a value is not of the kind that its directive shows.
-/

namespace SchemaRegistry

/-- A width or a precision. -/
inductive Extent where
  | absent
  | fixed (n : Nat)
  /-- The next value is the width or precision. -/
  | next
deriving DecidableEq, Repr

/-- What a directive says of the value that it shows. -/
structure Directive where
  /-- The name of the value, if the directive names one. -/
  key : Option String
  flags : List Char
  width : Extent
  precision : Extent
  /-- How the value is written. -/
  conversion : Char
deriving DecidableEq, Repr

/-- A piece of a template. -/
inductive Piece where
  | literal (c : Char)
  | directive (d : Directive)
deriving DecidableEq, Repr

/-- A value that a template shows. -/
inductive Shown where
  | value (value : Json)
  /-- A fixed row of values. -/
  | row (items : List Json)

namespace Shown

/-- The display of a value. A row stands between round brackets, a single item with a comma. -/
def display : Shown → String
  | value v => v.display
  | row [item] => "(" ++ item.display ++ ",)"
  | row items => "(" ++ Json.joinItems (items.map Json.display) ++ ")"

/-- The text of a value inside a message: a text as it is, anything else as its display. -/
def plainText : Shown → String
  | value v => v.plainText
  | shown => shown.display

/-- The value, if it is a single one. -/
def single? : Shown → Option Json
  | value v => some v
  | row _ => none

end Shown

/-- The values that a template is filled with. -/
inductive Values where
  | listed (items : List Json)
  /-- Values by name, and the value for a directive that names none. -/
  | named (fields : List (String × Shown)) (whole : Json)

namespace Template

/-! ## Reading -/

/-- The character is a flag of a directive. -/
def isFlag (c : Char) : Bool := c == '-' || c == '+' || c == ' ' || c == '#' || c == '0'

/-- The name up to its closing bracket and what follows. Brackets inside it are paired. -/
def readName (depth : Nat) (name : List Char) : List Char → Option (String × List Char)
  | [] => none
  | c :: rest =>
    if c = ')' then
      match depth with
      | 0 => some (String.ofList name.reverse, rest)
      | depth + 1 => readName depth (c :: name) rest
    else if c = '(' then readName (depth + 1) (c :: name) rest
    else readName depth (c :: name) rest

/-- The name of a directive, if it has one. -/
def readKey : List Char → Option (Option String × List Char)
  | '(' :: rest => (readName 0 [] rest).map fun (name, rest) => (some name, rest)
  | cs => some (none, cs)

/-- The number that digits make. -/
def numberOf (digits : List Char) : Nat :=
  digits.foldl (fun n c => n * 10 + (c.toNat - '0'.toNat)) 0

/-- A width. -/
def readWidth : List Char → Extent × List Char
  | '*' :: rest => (.next, rest)
  | cs =>
    let digits := cs.takeWhile Char.isDigit
    (if digits.isEmpty then .absent else .fixed (numberOf digits), cs.dropWhile Char.isDigit)

/-- A precision, which follows a point. No digits count as zero. -/
def readPrecision : List Char → Extent × List Char
  | '.' :: '*' :: rest => (.next, rest)
  | '.' :: rest => (.fixed (numberOf (rest.takeWhile Char.isDigit)), rest.dropWhile Char.isDigit)
  | cs => (.absent, cs)

/-- Drops the letter that tells the size of a number. It has no meaning here. -/
def dropSize : List Char → List Char
  | c :: rest => if c = 'h' || c = 'l' || c = 'L' then rest else c :: rest
  | [] => []

/-- A directive, the `%` of which has been read, and what follows it. -/
def readDirective (cs : List Char) : Option (Directive × List Char) := do
  let (key, cs) ← readKey cs
  let flags := cs.takeWhile isFlag
  let (width, cs) := readWidth (cs.dropWhile isFlag)
  let (precision, cs) := readPrecision cs
  match dropSize cs with
  | conversion :: rest => some (⟨key, flags, width, precision, conversion⟩, rest)
  | [] => none

/-- The pieces of a template with at most `bound` of them. -/
def readPieces : Nat → List Char → Option (List Piece)
  | _, [] => some []
  | 0, _ => none
  | bound + 1, '%' :: rest =>
    match readDirective rest with
    | some (d, rest) => (readPieces bound rest).map (.directive d :: ·)
    | none => none
  | bound + 1, c :: rest => (readPieces bound rest).map (.literal c :: ·)

/-- The pieces of a template. -/
def read (text : String) : Option (List Piece) := readPieces text.toList.length text.toList

/-! ## Writing a value -/

/-- A value as it is written before its width is made up: a sign, a mark of the base, and the rest. Numbers
may be made up with zeros. -/
structure Written where
  sign : List Char := []
  base : List Char := []
  body : List Char
  numeric : Bool := false

/-- Makes up the width. -/
def Written.pad (w : Written) (flags : List Char) (width : Nat) : List Char :=
  let missing := width - (w.sign.length + w.base.length + w.body.length)
  if flags.contains '-' then w.sign ++ w.base ++ w.body ++ List.replicate missing ' '
  else if w.numeric && flags.contains '0' then
    w.sign ++ w.base ++ List.replicate missing '0' ++ w.body
  else List.replicate missing ' ' ++ w.sign ++ w.base ++ w.body

/-- The sign of a number. -/
def signOf (flags : List Char) (negative : Bool) : List Char :=
  if negative then ['-']
  else if flags.contains '+' then ['+']
  else if flags.contains ' ' then [' ']
  else []

/-- The whole number that a value is. -/
def whole? : Json → Option Int
  | .int n => some n
  | .bool b => some (if b then 1 else 0)
  | _ => none

/-- The whole number that is left of a number without its fraction. -/
def truncated? : Json → Option Int
  | .float (.finite negative significand exponent) =>
    let (num, den) := Number.Binary64.ratio significand exponent
    some (if negative then -((num / den : Nat) : Int) else ((num / den : Nat) : Int))
  | value => whole? value

/-- The number of double precision nearest to a value. -/
def float? : Json → Option Number.Binary64
  | .float x => some x
  | value =>
    (whole? value).bind fun n =>
      match Number.Binary64.ofRatio (n < 0) n.natAbs 1 with
      | .infinite _ => none
      | x => some x

/-- A whole number in a base. The precision is the least number of digits. -/
def writeWhole (flags : List Char) (precision : Option Nat) (base : Nat) (mark : List Char)
    (upper : Bool) (n : Int) : Written :=
  let digits := Nat.toDigits base n.natAbs
  let digits := if upper then digits.map Char.toUpper else digits
  { sign := signOf flags (n < 0)
    base := if flags.contains '#' then mark else []
    body := List.replicate (precision.getD 0 - digits.length) '0' ++ digits
    numeric := true }

/-- A number of double precision in one of the three notations. -/
def writeFloat (flags : List Char) (precision : Option Nat)
    (notate : Nat → Nat → Nat → Bool → List Char) (upper : Bool) (x : Number.Binary64) : Written :=
  let (negative, body) :=
    match x with
    | .finite negative significand exponent =>
      let (num, den) := Number.Binary64.ratio significand exponent
      (negative, notate num den (precision.getD 6) (flags.contains '#'))
    | .infinite negative => (negative, "inf".toList)
    | .nan => (false, "nan".toList)
  { sign := signOf flags negative
    body := if upper then body.map Char.toUpper else body
    numeric := true }

/-- A character outside ASCII by its number. -/
def asciiChar (c : Char) : List Char :=
  if c.toNat < 0x80 then [c]
  else if c.toNat < 0x100 then '\\' :: 'x' :: Text.hexDigits 2 c.toNat
  else if c.toNat < 0x10000 then '\\' :: 'u' :: Text.hexDigits 4 c.toNat
  else '\\' :: 'U' :: Text.hexDigits 8 c.toNat

/-- A text, of which the precision is the greatest length. -/
def writeText (precision : Option Nat) (cs : List Char) : Written :=
  { body := (precision.map cs.take).getD cs }

/-- A single character, given as a text or by its number. -/
def character? : Json → Option Char
  | .str text =>
    match text.toList with
    | [c] => some c
    | _ => none
  | value =>
    (whole? value).bind fun n =>
      if 0 ≤ n && n.toNat.isValidChar then some (Char.ofNat n.toNat) else none

/-- A number or a character as its conversion writes it. -/
def writeSingle (flags : List Char) (precision : Option Nat) (conversion : Char) (value : Json) :
    Option Written :=
  match conversion with
  | 'c' => (character? value).map fun c => { body := [c] }
  | 'd' | 'i' | 'u' => (truncated? value).map (writeWhole flags precision 10 [] false)
  | 'o' => (whole? value).map (writeWhole flags precision 8 ['0', 'o'] false)
  | 'x' => (whole? value).map (writeWhole flags precision 16 ['0', 'x'] false)
  | 'X' => (whole? value).map (writeWhole flags precision 16 ['0', 'X'] true)
  | 'f' => (float? value).map (writeFloat flags precision Number.Decimal.fixed false)
  | 'F' => (float? value).map (writeFloat flags precision Number.Decimal.fixed true)
  | 'e' => (float? value).map (writeFloat flags precision Number.Decimal.exponential false)
  | 'E' => (float? value).map (writeFloat flags precision Number.Decimal.exponential true)
  | 'g' => (float? value).map (writeFloat flags precision Number.Decimal.general false)
  | 'G' => (float? value).map (writeFloat flags precision Number.Decimal.general true)
  | _ => none

/-- A value as its conversion writes it. -/
def write (flags : List Char) (precision : Option Nat) (conversion : Char) (shown : Shown) :
    Option Written :=
  match conversion with
  | 's' => some (writeText precision shown.plainText.toList)
  | 'r' => some (writeText precision shown.display.toList)
  | 'a' => some (writeText precision (shown.display.toList.flatMap asciiChar))
  | _ => shown.single?.bind (writeSingle flags precision conversion)

/-! ## Filling -/

/-- The width or precision that a value gives. It is a whole number in a word of 32 bits. -/
def extentOf? (value : Json) : Option Int :=
  (whole? value).bind fun n => if n.natAbs < 2147483648 then some n else none

/-- A width or precision and the values that are left after it. -/
def resolve : Extent → List Shown → Option (Option Int × List Shown)
  | .absent, values => some (none, values)
  | .fixed n, values => (extentOf? (.int n)).map fun n => (some n, values)
  | .next, value :: rest => (value.single?.bind extentOf?).map fun n => (some n, rest)
  | .next, [] => none

/-- The values that a directive may use: the one that it names, or those that are left. -/
def candidates (fields : Option (List (String × Shown))) (d : Directive) (values : List Shown) :
    Option (List Shown) :=
  match d.key with
  | none => some values
  | some name => (fields.bind (List.lookup name)).map fun value => [value]

/-- A directive filled in, and the values that are left. A doubled `%` stands for itself. -/
def fillDirective (d : Directive) (values : List Shown) : Option (List Char × List Shown) := do
  let (width, values) ← resolve d.width values
  let (precision, values) ← resolve d.precision values
  let width := width.getD 0
  let flags := if width < 0 then '-' :: d.flags else d.flags
  if d.conversion = '%' then return (['%'], values)
  match values with
  | [] => none
  | value :: rest =>
    let written ← write flags (precision.map Int.toNat) d.conversion value
    return (written.pad flags width.natAbs, rest)

/-- The pieces filled in, and the values that are left. -/
def fillPieces (fields : Option (List (String × Shown))) :
    List Piece → List Shown → Option (List Char × List Shown)
  | [], values => some ([], values)
  | .literal c :: pieces, values => do
    let (text, values) ← fillPieces fields pieces values
    return (c :: text, values)
  | .directive d :: pieces, values => do
    let (shown, values) ← fillDirective d (← candidates fields d values)
    let (text, values) ← fillPieces fields pieces values
    return (shown ++ text, values)

/-- The template filled with values. Listed values are all used; of named values any may be left. -/
def fill? (template : String) (values : Values) : Option String := do
  let pieces ← read template
  match values with
  | .listed items =>
    let (text, rest) ← fillPieces none pieces (items.map .value)
    if rest.isEmpty then some (String.ofList text) else none
  | .named fields whole =>
    let (text, _) ← fillPieces (some fields) pieces [.value whole]
    some (String.ofList text)

/-! ## Templates of named values -/

/-- The text goes on with a width or precision of digits of any script or a star, at least one of them. -/
def dropExtent? : List Char → Option (List Char)
  | '*' :: rest => some rest
  | cs =>
    let isDigit (c : Char) : Bool := (Text.digitValue? c).isSome
    if cs.head?.any isDigit then some (cs.dropWhile isDigit) else none

/-- The text goes on with a directive that names its value, from the opening bracket on. -/
def namesValue : List Char → Bool
  | '(' :: rest =>
    let isWord (c : Char) : Bool := c.isAlphanum || c == '_'
    match rest.takeWhile isWord, rest.dropWhile isWord with
    | _ :: _, ')' :: rest =>
      let rest := rest.dropWhile isFlag
      let rest := (dropExtent? rest).getD rest
      let rest :=
        match rest with
        | '.' :: more => (dropExtent? more).getD rest
        | rest => rest
      match rest with
      | c :: _ => "diouxefgcrsa%".toList.contains c.toLower
      | [] => false
    | _, _ => false
  | _ => false

/-- The template has a directive that names its value. -/
def hasNamed : List Char → Bool
  | [] => false
  | c :: rest => (c == '%' && namesValue rest) || hasNamed rest

end Template

end SchemaRegistry
