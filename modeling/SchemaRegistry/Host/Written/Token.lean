import SchemaRegistry.Host.Hint
import SchemaRegistry.Number.Numeral
import SchemaRegistry.Text.HiddenTable
import SchemaRegistry.Text.Name

/-!
# Tokens of written hints

A hint can be written as a text, which is an expression. The text is cut into names, numbers, texts and
signs. Each token knows its line and how many brackets are open after it; within brackets a line end counts
for nothing.

`cut` goes on to the end of the text or to the first fault. Brackets that are open at the end are a token of
their own, so that they only matter to whoever reads that far.
-/

namespace SchemaRegistry.Written

/-- Why a written hint is no expression. -/
structure Fault where
  kind : String
  reason : String
  line : Nat
deriving DecidableEq, Repr

/-- A fault of the form of a written hint. -/
def Fault.form (reason : String) (line : Nat) : Fault := ⟨"SyntaxError", reason, line⟩

/-- The message of a fault. It says where the fault is, unless the text as a whole is refused. -/
def Fault.message (f : Fault) : String :=
  if f.kind = "ValueError" then f.reason else f.reason ++ " (<string>, line " ++ toString f.line ++ ")"

/-- The kind of a written text. -/
inductive TextKind where
  | plain
  | bytes
  /-- With values to be filled in. -/
  | filled
deriving DecidableEq, Repr

/-- A value that is written as it is. -/
inductive Constant where
  | nothing
  | flag (value : Bool)
  | whole (value : Int)
  | real (value : Number.Binary64)
  | imaginary
  | ellipsis
  | text (value : String)
  | bytes
deriving Repr

/-- The value as a hint. -/
def Constant.hint : Constant → Hint
  | nothing => .nothing
  | flag value => .flag value
  | whole value => .whole value
  | real value => .real value
  | imaginary => .other "complex" ""
  | ellipsis => .ellipsis
  | text value => .text value
  | bytes => .other "bytes" ""

/-- What a token is. -/
inductive TokenKind where
  | name (text : String)
  | number (value : Constant)
  | text (kind : TextKind) (value : String)
  | sign (text : String)
  | lineEnd
  | indent
  | finish
  /-- The end of the text, where a bracket is still open that was opened on a line. -/
  | unclosed (bracket : Char) (line : Nat)
  /-- A place that nothing can be read at. -/
  | broken (fault : Fault)
deriving Repr

/-- A token. -/
structure Token where
  kind : TokenKind
  line : Nat
  /-- How many brackets are open after the token. -/
  depth : Nat
deriving Repr

/-- Where cutting has come to. -/
structure Cursor where
  rest : List Char
  line : Nat
  /-- The open brackets with their lines, the innermost first. -/
  brackets : List (Char × Nat)

/-! ## Names and characters -/

/-- A character that names are made of, or might be. -/
def mayStartName (c : Char) : Bool := c.isAlpha || c == '_' || 0x80 ≤ c.toNat

/-- A character that might go on with a name. -/
def mayGoOn (c : Char) : Bool := mayStartName c || c.isDigit

/-- The number of a character in at least four hexadecimal digits. -/
def codeText (c : Char) : String :=
  let digits := (Nat.toDigits 16 c.toNat).map Char.toUpper
  String.ofList (List.replicate (4 - digits.length) '0' ++ digits)

/-- The fault of a character that stands for nothing. -/
def badCharacter (c : Char) (line : Nat) : Fault :=
  if Text.hidden.contains c then .form ("invalid non-printable character U+" ++ codeText c) line
  else .form ("invalid character '" ++ c.toString ++ "' (U+" ++ codeText c ++ ")") line

/-- The first character that keeps a row of characters from being a name. -/
def firstMisfit? : List Char → Option Char
  | [] => none
  | c :: rest => if Text.startsName c then rest.find? fun d => !Text.isInName d else some c

/-! ## Numbers -/

/-- Words that may stand right after a number. -/
def wordsAfterNumber : List String := ["and", "else", "for", "not", "or"]

/-- Starts of words that may stand right after a number, whatever follows them. -/
def startsAfterNumber : List String := ["if", "in", "is"]

/-- The text starts with a word. -/
def startsWithWord (cs : List Char) (word : String) : Bool :=
  word.toList.isPrefixOf cs && !((cs.drop word.length).head?.map mayGoOn).getD false

/-- What may stand right after a number of a kind: no letter, unless it starts one of a few words. -/
def checkEnd (kind : String) (line : Nat) (rest : List Char) : Except Fault Unit :=
  match rest with
  | [] => .ok ()
  | c :: _ =>
    if wordsAfterNumber.any (startsWithWord rest) then .ok ()
    else if startsAfterNumber.any fun start => start.toList.isPrefixOf rest then .ok ()
    else if c.toNat < 0x80 && mayGoOn c then .error (.form ("invalid " ++ kind ++ " literal") line)
    else .ok ()

/-- The value of a digit of a base up to sixteen. -/
def digitValue (c : Char) : Nat :=
  if c.isDigit then c.toNat - 0x30 else c.toLower.toNat - 0x61 + 10

/-- Reads digits of a class with single underscores between them: the digits and the rest. Behind the last
digit, an underscore is a fault. -/
def readDigits (isDigit : Char → Bool) (fault : Fault) :
    List Char → List Char → Except Fault (List Char × List Char)
  | digits, '_' :: c :: rest =>
    if isDigit c then readDigits isDigit fault (digits ++ [c]) rest else .error fault
  | digits, c :: rest =>
    if c = '_' then .error fault
    else if isDigit c then readDigits isDigit fault (digits ++ [c]) rest
    else .ok (digits, c :: rest)
  | digits, [] => .ok (digits, [])

/-- Reads a number of another base than ten behind its mark. -/
def readBased (base : Nat) (kind : String) (line : Nat) (rest : List Char) :
    Except Fault (Constant × List Char) := do
  let isDigit (c : Char) : Bool :=
    (c.isDigit || ('a' ≤ c.toLower && c.toLower ≤ 'f')) && digitValue c < base
  let plainFault := Fault.form ("invalid " ++ kind ++ " literal") line
  let digitFault (c : Char) : Fault :=
    .form ("invalid digit '" ++ c.toString ++ "' in " ++ kind ++ " literal") line
  let first := match rest with | '_' :: more => more | more => more
  match first with
  | c :: _ =>
    if !isDigit c then
      throw (if c.isDigit then digitFault c else plainFault)
  | [] => throw plainFault
  let (digits, rest) ← readDigits isDigit plainFault [] first
  match rest with
  | c :: _ => if c.isDigit then throw (digitFault c)
  | [] => pure ()
  checkEnd kind line rest
  return (.whole (digits.foldl (fun n c => n * base + digitValue c) 0 : Nat), rest)

/-- The most digits that a whole number may be written with. -/
def maxDigits : Nat := 4300

/-- Reads the power of ten of a number, if there is one: its value. -/
def readPower (line : Nat) (rest : List Char) : Except Fault (Option Int × List Char) := do
  let fault := Fault.form "invalid decimal literal" line
  match rest with
  | e :: body =>
    if e ≠ 'e' ∧ e ≠ 'E' then return (none, rest)
    let (signed, negative, digits) :=
      match body with
      | '-' :: digits => (true, true, digits)
      | '+' :: digits => (true, false, digits)
      | digits => (false, false, digits)
    match digits with
    | c :: _ =>
      if c.isDigit then
        let (digits, rest) ← readDigits Char.isDigit fault [] digits
        let value : Int := Number.digitsValue digits
        return (some (if negative then -value else value), rest)
      else if signed then throw fault
      else do checkEnd "decimal" line rest; return (none, rest)
    | [] => if signed then throw fault else do checkEnd "decimal" line rest; return (none, rest)
  | [] => return (none, rest)

/-- Reads a decimal number, which starts with a digit or with a point and a digit. -/
def readDecimal (line : Nat) (cs : List Char) : Except Fault (Constant × List Char) := do
  let fault := Fault.form "invalid decimal literal" line
  let (whole, rest) ←
    match cs with
    | '.' :: _ => pure ([], cs)
    | cs => readDigits Char.isDigit fault [] cs
  let (fraction, rest) ←
    match rest with
    | '.' :: c :: rest =>
      if c.isDigit then do
        let (digits, rest) ← readDigits Char.isDigit fault [] (c :: rest)
        pure (some digits, rest)
      else pure (some [], c :: rest)
    | ['.'] => pure (some [], [])
    | rest => pure (none, rest)
  let (power, rest) ← readPower line rest
  match rest with
  | 'j' :: rest | 'J' :: rest =>
    checkEnd "imaginary" line rest
    return (.imaginary, rest)
  | rest =>
    if fraction.isNone && power.isNone then
      if whole.head? = some '0' && whole.any (· ≠ '0') then
        throw (.form ("leading zeros in decimal integer literals are not permitted; " ++
          "use an 0o prefix for octal integers") line)
      checkEnd "decimal" line rest
      if maxDigits < whole.length then
        throw (.form ("Exceeds the limit (4300 digits) for integer string conversion: value has " ++
          toString whole.length ++ " digits; use sys.set_int_max_str_digits() to increase the limit - " ++
          "Consider hexadecimal for huge integer literals to avoid decimal conversion limits.") line)
      return (.whole (Number.digitsValue whole), rest)
    else
      checkEnd "decimal" line rest
      let places : Int := (fraction.getD []).length
      let digits := Number.digitsValue (whole ++ fraction.getD [])
      return (.real (.ofDecimal false digits (power.getD 0 - places)), rest)

/-- Reads a number. -/
def readNumber (line : Nat) (cs : List Char) : Except Fault (Constant × List Char) :=
  match cs with
  | '0' :: mark :: rest =>
    if mark = 'x' || mark = 'X' then readBased 16 "hexadecimal" line rest
    else if mark = 'o' || mark = 'O' then readBased 8 "octal" line rest
    else if mark = 'b' || mark = 'B' then readBased 2 "binary" line rest
    else readDecimal line cs
  | cs => readDecimal line cs

/-! ## Texts -/

/-- The letters before a quote: which kind of text follows, and whether backslashes are kept. -/
structure Opening where
  bytes : Bool := false
  unicode : Bool := false
  raw : Bool := false
  filled : Bool := false

/-- Reads the letters before a quote. There is no opening if other characters come first. -/
def readOpening? (o : Opening) : List Char → Option (Opening × List Char)
  | [] => none
  | c :: rest =>
    if c = '"' || c = '\'' then some (o, c :: rest)
    else
      let letter := c.toLower
      if letter = 'b' && !(o.bytes || o.unicode || o.filled) then readOpening? { o with bytes := true } rest
      else if letter = 'u' && !(o.bytes || o.unicode || o.raw || o.filled) then
        readOpening? { o with unicode := true } rest
      else if letter = 'r' && !(o.raw || o.unicode) then readOpening? { o with raw := true } rest
      else if letter = 'f' && !(o.filled || o.bytes || o.unicode) then
        readOpening? { o with filled := true } rest
      else none

/-- Reads a text up to its closing quotes: its characters as written, the rest and the line. Without the
closing quotes there is only the line that was reached. -/
def readQuoted (quote : Char) (triple : Bool) (body : List Char) (line : Nat) :
    List Char → Except Nat (List Char × List Char × Nat)
  | [] => .error line
  | '\\' :: c :: rest =>
    readQuoted quote triple (body ++ ['\\', c]) (if c = '\n' && !rest.isEmpty then line + 1 else line) rest
  | c :: rest =>
    if c = quote && (!triple || [quote, quote].isPrefixOf rest) then
      .ok (body, if triple then rest.drop 2 else rest, line)
    else if c = '\n' && !triple then .error line
    else
      readQuoted quote triple (body ++ [c]) (if c = '\n' && !rest.isEmpty then line + 1 else line) rest

/-- The characters that a backslash and a character stand for. -/
def unescaped? : Char → Option (List Char)
  | '\n' => some []
  | '\\' => some ['\\']
  | '\'' => some ['\'']
  | '"' => some ['"']
  | 'a' => some ['\x07']
  | 'b' => some ['\x08']
  | 'f' => some ['\x0c']
  | 'n' => some ['\n']
  | 'r' => some ['\r']
  | 't' => some ['\t']
  | 'v' => some ['\x0b']
  | _ => none

/-- How many hexadecimal digits follow a backslash and a letter. -/
def codeLength? : Char → Option Nat
  | 'x' => some 2
  | 'u' => some 4
  | 'U' => some 8
  | _ => none

/-- The character is a hexadecimal digit. -/
def isHexDigit (c : Char) : Bool := c.isDigit || ('a' ≤ c.toLower && c.toLower ≤ 'f')

/-- The character is a digit from zero to seven. -/
def isOctalDigit (c : Char) : Bool := '0' ≤ c && c ≤ '7'

/-- The number that digits of a base write. -/
def valueOf (base : Nat) (digits : List Char) : Nat := digits.foldl (fun n c => n * base + digitValue c) 0

/-- The characters that a written text stands for, in at most `steps` steps. -/
def unescape : Nat → List Char → List Char
  | 0, cs => cs
  | _ + 1, [] => []
  | steps + 1, '\\' :: c :: rest =>
    match unescaped? c, codeLength? c with
    | some plain, _ => plain ++ unescape steps rest
    | none, some length =>
      let digits := rest.take length
      if digits.length = length && digits.all isHexDigit then
        Char.ofNat (valueOf 16 digits) :: unescape steps (rest.drop length)
      else '\\' :: c :: unescape steps rest
    | none, none =>
      if isOctalDigit c then
        let digits := (c :: rest.take 2).takeWhile isOctalDigit
        Char.ofNat (valueOf 8 digits) :: unescape steps (rest.drop (digits.length - 1))
      else '\\' :: c :: unescape steps rest
  | steps + 1, c :: rest => c :: unescape steps rest

/-- Reads a text behind the letters of its opening. -/
def readText (o : Opening) (line : Nat) (cs : List Char) : Except Fault (TokenKind × List Char × Nat) := do
  let (quote, triple, rest) :=
    match cs with
    | a :: b :: c :: rest =>
      if a = b && b = c then (a, true, rest) else (a, false, b :: c :: rest)
    | a :: rest => (a, false, rest)
    | [] => ('\'', false, [])
  match readQuoted quote triple [] line rest with
  | .error reached =>
    throw (.form ("unterminated " ++ (if triple then "triple-quoted " else "") ++
      "string literal (detected at line " ++ toString reached ++ ")") line)
  | .ok (body, rest, reached) =>
    let value := if o.raw then body else unescape body.length body
    let kind := if o.bytes then TextKind.bytes else if o.filled then .filled else .plain
    return (.text kind (String.ofList value), rest, reached)

/-! ## Signs -/

/-- Signs of several characters, the longer ones first. -/
def longSigns : List String := [
  "**=", "//=", ">>=", "<<=", "...", "**", "//", ">>", "<<", "<=", ">=", "==", "!=", "<>", "->", "+=", "-=",
  "*=", "/=", "%=", "&=", "|=", "^=", "@=", ":="]

/-- The bracket that closes a bracket. -/
def closing? : Char → Option Char
  | '(' => some ')'
  | '[' => some ']'
  | '\x7b' => some '\x7d'
  | _ => none

/-- The bracket is closed by a character. -/
def isClosing (c : Char) : Bool := c = ')' || c = ']' || c = '\x7d'

/-- The greatest number of brackets that may be open. -/
def maxDepth : Nat := 200

/-- Reads a sign. -/
def readSign (here : Cursor) : Except Fault (TokenKind × Cursor) :=
  match longSigns.find? fun sign => sign.toList.isPrefixOf here.rest with
  | some sign => .ok (.sign sign, { here with rest := here.rest.drop sign.length })
  | none =>
    match here.rest with
    | [] => .ok (.finish, here)
    | c :: rest =>
      let sign : TokenKind := .sign c.toString
      if (closing? c).isSome then
        if maxDepth ≤ here.brackets.length then .error (.form "too many nested parentheses" here.line)
        else .ok (sign, { here with rest, brackets := (c, here.line) :: here.brackets })
      else if isClosing c then
        match here.brackets with
        | [] => .error (.form ("unmatched '" ++ c.toString ++ "'") here.line)
        | (opened, line) :: outer =>
          if closing? opened = some c then .ok (sign, { here with rest, brackets := outer })
          else
            .error (.form ("closing parenthesis '" ++ c.toString ++
              "' does not match opening parenthesis '" ++ opened.toString ++ "'" ++
              (if line = here.line then "" else " on line " ++ toString line)) here.line)
      else if c.toNat < 0x20 || c.toNat = 0x7F then .error (badCharacter c here.line)
      else .ok (sign, { here with rest })

/-! ## Cutting -/

/-- The column behind the blanks at the start of a line, and what follows them. -/
def indentation (column : Nat) : List Char → Nat × List Char
  | ' ' :: rest => indentation (column + 1) rest
  | '\t' :: rest => indentation ((column / 8 + 1) * 8) rest
  | '\x0c' :: rest => indentation 0 rest
  | rest => (column, rest)

/-- The cursor behind a line end. -/
def Cursor.nextLine (here : Cursor) (rest : List Char) : Cursor :=
  { here with rest, line := if rest.isEmpty then here.line else here.line + 1 }

/-- Reads a token at a character that is no blank. -/
def readToken (here : Cursor) : Except Fault (TokenKind × Cursor) :=
  match here.rest with
  | [] => .ok (.finish, here)
  | c :: rest =>
    if mayStartName c || c = '"' || c = '\'' then
      match readOpening? {} here.rest with
      | some (opening, body) => do
        let (kind, rest, line) ← readText opening here.line body
        return (kind, { here with rest, line })
      | none =>
        let letters := here.rest.takeWhile mayGoOn
        match firstMisfit? letters with
        | some misfit => .error (badCharacter misfit here.line)
        | none =>
          .ok (.name (Text.plainName (String.ofList letters)),
            { here with rest := here.rest.drop letters.length })
    else if c.isDigit || (c = '.' && (rest.head?.map Char.isDigit).getD false) then do
      let (value, rest) ← readNumber here.line here.rest
      return (.number value, { here with rest })
    else readSign here

/-- What was cut: the tokens and the fault that ended the cutting. -/
structure Cut where
  tokens : List Token
  fault : Option Fault

/-- The tokens at the end of the text. -/
def finishTokens (here : Cursor) (afterToken : Bool) : List Token :=
  match here.brackets with
  | (bracket, line) :: _ => [⟨.unclosed bracket line, here.line, here.brackets.length⟩]
  | [] =>
    (if afterToken then [⟨.lineEnd, here.line, 0⟩] else []) ++ [⟨.finish, here.line, 0⟩]

/-- The end of cutting at a place that nothing can be read at. -/
def broken (here : Cursor) (reason : String) : Cut :=
  ⟨[⟨.broken (.form reason here.line), here.line, here.brackets.length⟩], none⟩

/-- Cuts the rest of the text, in at most `steps` steps. `fresh` says that a line starts here, `afterToken`
that a token stands on the line. -/
def cutFrom : Nat → Cursor → (fresh afterToken : Bool) → Cut
  | 0, here, _, _ => ⟨[⟨.finish, here.line, 0⟩], none⟩
  | steps + 1, here, fresh, afterToken =>
    let (column, rest) := indentation 0 here.rest
    let isBlankLine := match rest with | '#' :: _ | '\n' :: _ => true | _ => false
    if fresh && here.brackets.isEmpty && 0 < column && !isBlankLine then
      let cut := cutFrom steps { here with rest } false true
      ⟨⟨.indent, here.line, 0⟩ :: cut.tokens, cut.fault⟩
    else
      match rest with
      | [] => ⟨finishTokens here afterToken, none⟩
      | '#' :: rest => cutFrom steps { here with rest := rest.dropWhile (· ≠ '\n') } false afterToken
      | '\n' :: rest =>
        let cut := cutFrom steps (here.nextLine rest) true (if here.brackets.isEmpty then false else afterToken)
        if afterToken && here.brackets.isEmpty then
          ⟨⟨.lineEnd, here.line, 0⟩ :: cut.tokens, cut.fault⟩
        else cut
      | '\\' :: '\n' :: rest =>
        if rest.isEmpty then broken here "unexpected EOF while parsing"
        else cutFrom steps (here.nextLine rest) false afterToken
      | '\\' :: _ => broken here "unexpected character after line continuation character"
      | _ =>
        match readToken { here with rest } with
        | .error fault => ⟨[], some fault⟩
        | .ok (kind, next) =>
          let cut := cutFrom steps next false true
          ⟨⟨kind, next.line, next.brackets.length⟩ :: cut.tokens, cut.fault⟩

/-- Cuts a text. -/
def cut (text : String) : Cut :=
  let cs := text.toList
  if cs.contains '\x00' then
    ⟨[], some ⟨"ValueError", "source code string cannot contain null bytes", 1⟩⟩
  else cutFrom (2 * cs.length + 2) ⟨cs, if cs.isEmpty then 0 else 1, []⟩ true false

end SchemaRegistry.Written
