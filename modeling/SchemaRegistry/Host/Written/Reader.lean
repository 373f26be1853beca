import SchemaRegistry.Host.Written.Expression

/-!
# Reading expressions

`Written.read` reads a written hint. It goes through the tokens from the left, one operator level inside
another. If the tokens do not fit, it goes through them once more to find out what was probably meant; the
second time it says so.

A fault of cutting the text comes before any fault of its form.
-/

namespace SchemaRegistry.Written

/-- Why reading stopped: the tokens do not fit from a line on, or they tell a fault. -/
inductive Halt where
  | mismatch (line : Nat) (isIndent : Bool)
  | fault (f : Fault)

/-- Where reading has come to. -/
structure Position where
  rest : List Token
  /-- How many brackets were open after the last token. -/
  depth : Nat

/-- How tokens are read. -/
inductive Manner where
  /-- For the first time: what has begun has to fit. -/
  | strict
  /-- What has begun and does not fit is left. -/
  | lenient
  /-- Like that, and what was probably meant is said. -/
  | explaining
deriving DecidableEq, Repr

/-- A step of reading in some manner. -/
abbrev Reading (α : Type) := ReaderT Manner (StateT Position (Except Halt)) α

namespace Reading

/-- The token that comes next. To look at the end within an open bracket is a fault. -/
def peek : Reading Token := do
  match (← get).rest with
  | [] => throw (.mismatch 1 false)
  | token :: _ =>
    match token.kind with
    | .unclosed bracket line =>
      throw (.fault (.form ("'" ++ bracket.toString ++ "' was never closed") line))
    | .broken fault => throw (.fault fault)
    | _ => return token

/-- The tokens do not fit. -/
def fail {α : Type} : Reading α := do
  let token ← peek
  throw (.mismatch token.line (match token.kind with | .indent => true | _ => false))

/-- The tokens tell a fault. -/
def refuse {α : Type} (reason : String) (line : Nat) : Reading α := throw (.fault (.form reason line))

/-- Takes the next token. -/
def advance : Reading Unit := do
  let here ← get
  match here.rest with
  | [] => pure ()
  | token :: rest => set (⟨rest, token.depth⟩ : Position)

/-- The next token is a sign or a word. -/
def isNext (text : String) : Reading Bool := do
  match (← peek).kind with
  | .sign s | .name s => return s == text
  | _ => return false

/-- Takes a sign or a word, if it comes next. -/
def accept (text : String) : Reading Bool := do
  if ← isNext text then advance; return true
  else return false

/-- Takes a sign or a word, which has to come next. -/
def expect (text : String) : Reading Unit := do
  if !(← accept text) then fail

/-- Tries a step. If the tokens do not fit, nothing was taken. -/
def attempt {α : Type} (step : Reading α) : Reading (Option α) := fun manner here =>
  match step manner here with
  | .ok (value, next) => .ok (some value, next)
  | .error (.mismatch ..) => .ok (none, here)
  | .error (.fault f) => .error (.fault f)

/-- Takes a step without saying what was meant. -/
def plainly {α : Type} (step : Reading α) : Reading α := fun _ here => step .lenient here

/-- Does the step if what was meant is to be said. -/
def whenExplaining (step : Reading Unit) : Reading Unit := do
  if (← readThe Manner) = .explaining then step

/-- Goes on with a step behind a value. If it does not fit, it is left, unless reading is strict. -/
def goOn {α : Type} (value : α) (step : Reading α) : Reading α := do
  if (← readThe Manner) = .strict then step
  else return (← attempt step).getD value

/-- Looks whether a step would do, without taking anything. -/
def look {α : Type} (step : Reading α) : Reading (Option α) := do
  let here ← get
  let found ← attempt step
  set here
  return found

end Reading

open Reading

/-- Words that are no names. -/
def keywords : List String := [
  "False", "None", "True", "and", "as", "assert", "async", "await", "break", "class", "continue", "def",
  "del", "elif", "else", "except", "finally", "for", "from", "global", "if", "import", "in", "is",
  "lambda", "nonlocal", "not", "or", "pass", "raise", "return", "try", "while", "with", "yield"]

/-- Words that are names but in a few places. -/
def softKeywords : List String := ["_", "case", "match"]

/-- Functions that were once statements. -/
def formerStatements : List String := ["print", "exec"]

/-- Takes a name. -/
def readName : Reading String := do
  match (← peek).kind with
  | .name s => if keywords.contains s then fail else advance; return s
  | _ => fail

/-- The comparison that comes next, taken. -/
def readComparison? : Reading (Option String) := do
  match (← peek).kind with
  | .sign s =>
    if ["==", "!=", "<", "<=", ">", ">="].contains s then advance; return some s else return none
  | .name "in" => advance; return some "in"
  | .name "is" => do
    advance
    if ← accept "not" then return some "is not" else return some "is"
  | .name "not" =>
    attempt' (do advance; expect "in"; return "not in")
  | _ => return none
where
  /-- Tries a step. -/
  attempt' (step : Reading String) : Reading (Option String) := attempt step

/-- The signs of a level of operators, the loosest first. -/
def levelSigns : List (List String) :=
  [["|"], ["^"], ["&"], ["<<", ">>"], ["+", "-"], ["*", "/", "//", "%", "@"]]

/-- The next token is one of some signs, taken. -/
def acceptOneOf (signs : List String) : Reading (Option String) := do
  match (← peek).kind with
  | .sign s => if signs.contains s then advance; return some s else return none
  | _ => return none

/-- Texts that stand side by side are one text. -/
def readTexts (line : Nat) : List (TextKind × String) → Reading Expression
  | [] => fail
  | (kind, value) :: rest => do
    let texts := (kind, value) :: rest
    let isBytes (t : TextKind × String) : Bool := t.1 == .bytes
    if texts.any isBytes && !texts.all isBytes then refuse "cannot mix bytes and nonbytes literals" line
    if texts.any fun t => isBytes t && t.2.toList.any fun c => 0x80 ≤ c.toNat then
      refuse "bytes can only contain ASCII literal characters" line
    let joined := String.join (texts.map (·.2))
    return .constant (if isBytes (kind, value) then .bytes else .text joined)

/-- The texts that come next, taken. -/
def takeTexts : Nat → Reading (List (TextKind × String))
  | 0 => return []
  | steps + 1 => do
    match (← peek).kind with
    | .text kind value => do
      advance
      return (kind, value) :: (← takeTexts steps)
    | _ => return []

/-- A tree with a row of operands. -/
def compared (first : Expression) : List (String × Expression) → Expression
  | [] => first
  | rest => .comparison first (rest.map (·.1)) (rest.map (·.2))

/-- The expression can be meant as a value that is not assigned to. -/
def isPlainTarget : Expression → Bool
  | .tuple _ | .sequence _ | .comprehension .. => false
  | .constant (.flag _) | .constant .nothing => false
  | _ => true

/-- The expression names a function that was once a statement. -/
def isFormerStatement : Expression → Bool
  | .name s => formerStatements.contains s
  | _ => false

mutual

/-- Reads an expression. -/
def readExpression : Nat → Reading Expression
  | 0 => fail
  | steps + 1 => do
    whenExplaining (explainExpression steps)
    if ← accept "lambda" then
      readParameters steps
      let _ ← readExpression steps
      return .function
    let value ← readLevel steps 0
    if ← isNext "if" then
      goOn value do
        advance
        let condition ← readLevel steps 0
        expect "else"
        return .choice value condition (← readExpression steps)
    else return value

/-- Reads the parameters of a function and the colon behind them. -/
def readParameters : Nat → Reading Unit
  | 0 => fail
  | steps + 1 => do
    if ← accept ":" then return
    if ← isNext "(" then
      let line := (← peek).line
      whenExplaining (refuse "Lambda expression parameters cannot be parenthesized" line)
    if ← accept "**" then
      let _ ← readName
    else if ← accept "*" then
      if !(← isNext ",") then
        let _ ← readName
    else if !(← accept "/") then
      let _ ← readName
      if ← accept "=" then
        let _ ← readExpression steps
    if ← accept "," then readParameters steps else expect ":"

/-- Says what was probably meant by an expression that does not fit. -/
def explainExpression : Nat → Reading Unit
  | 0 => return
  | steps + 1 => do
    let here ← get
    let line := (← peek).line
    let startsOdd : Bool :=
      match here.rest with
      | ⟨.name _, _, _⟩ :: ⟨.text .., _, _⟩ :: _ => true
      | ⟨.name s, _, _⟩ :: _ => softKeywords.contains s
      | _ => false
    if !startsOdd then
      let found ← look do
        let a ← readLevel steps 0
        let _ ← plainly (readExpression steps)
        return (a, (← get).depth)
      match found with
      | some (a, depth) =>
        if !isFormerStatement a && depth ≠ 0 then
          refuse "invalid syntax. Perhaps you forgot a comma?" line
      | none => pure ()
    let found ← look do
      let _ ← readLevel steps 0
      expect "if"
      let _ ← readLevel steps 0
      return !(← isNext "else") && !(← isNext ":")
    if found = some true then refuse "expected 'else' after 'if' expression" line
    match here.rest with
    | ⟨.name s, _, _⟩ :: next :: _ =>
      let isCall : Bool := match next.kind with | .sign "(" => true | _ => false
      if formerStatements.contains s && !isCall then
        let found ← look do advance; let _ ← readExpression steps
        if found.isSome then
          refuse ("Missing parentheses in call to '" ++ s ++ "'. Did you mean " ++ s ++ "(...)?") line
    | _ => pure ()

/-- Reads an expression that may give its value a name. -/
def readNamed : Nat → Reading Expression
  | 0 => fail
  | steps + 1 => do
    let found ← attempt do
      let name ← readName
      expect ":="
      return name
    match found with
    | some name => return .bound name (← readExpression steps)
    | none =>
      whenExplaining (explainNamed steps)
      let value ← readExpression steps
      if ← isNext ":=" then fail
      return value

/-- Says what was probably meant by an assignment. -/
def explainNamed : Nat → Reading Unit
  | 0 => return
  | steps + 1 => do
    let line := (← peek).line
    let found ← look do
      let value ← readExpression steps
      expect ":="
      let _ ← readExpression steps
      return value
    if let some value := found then
      refuse ("cannot use assignment expressions with " ++ value.description) line
    let ends : Reading Bool := do return !(← isNext "=") && !(← isNext ":=")
    let found ← look do
      let _ ← readName
      expect "="
      let _ ← readLevel steps 4
      ends
    if found = some true then
      refuse "invalid syntax. Maybe you meant '==' or ':=' instead of '='?" line
    let found ← look do
      let target ← readLevel steps 4
      expect "="
      let _ ← readLevel steps 4
      return (target, ← ends)
    match found with
    | some (target, true) =>
      if isPlainTarget target then
        refuse ("cannot assign to " ++ target.description ++
          " here. Maybe you meant '==' instead of '='?") line
    | _ => pure ()

/-- Reads an item of a list: an expression, or the items of one spread out. -/
def readItem : Nat → Reading Expression
  | 0 => fail
  | steps + 1 => do
    if ← accept "*" then return .spread (← readLevel steps 4)
    readNamed steps

/-- Reads further operands of a level with these signs behind a first one. -/
def readOperands : Nat → Nat → List String → Expression → Reading Expression
  | 0, _, _, _ => fail
  | steps + 1, level, signs, left => do
    goOn left do
      match ← acceptOneOf signs with
      | some sign => do
        let right ← readLevel steps (level + 1)
        readOperands steps level signs (.binary sign left right)
      | none => return left

/-- Reads further comparisons. -/
def readComparisons : Nat → Reading (List (String × Expression))
  | 0 => fail
  | steps + 1 => do
    goOn [] do
      match ← readComparison? with
      | some sign => do
        let operand ← readLevel steps 4
        return (sign, operand) :: (← readComparisons steps)
      | none => return []

/-- Reads an expression of a level: `or`, `and`, `not`, comparisons, then operators by their signs. -/
def readLevel : Nat → Nat → Reading Expression
  | 0, _ => fail
  | steps + 1, 0 => do
    let left ← readLevel steps 1
    goOn left do
      if ← accept "or" then return .junction false left (← readLevel steps 0)
      return left
  | steps + 1, 1 => do
    let left ← readLevel steps 2
    goOn left do
      if ← accept "and" then return .junction true left (← readLevel steps 1)
      return left
  | steps + 1, 2 => do
    if ← accept "not" then return .unary "not" (← readLevel steps 2)
    readLevel steps 3
  | steps + 1, 3 => do
    let first ← readLevel steps 4
    return compared first (← readComparisons steps)
  | steps + 1, level + 4 => do
    match levelSigns[level]? with
    | some signs => do
      let left ← readLevel steps (level + 5)
      readOperands steps (level + 4) signs left
    | none => do
      match ← acceptOneOf ["+", "-", "~"] with
      | some sign => return .unary sign (← readLevel steps (level + 4))
      | none => do
        let line := (← peek).line
        let awaits ← accept "await"
        let base ← readAtom steps
        let base ← readTrailers steps base
        let base := if awaits then .misplaced "await" line else base
        goOn base do
          if ← accept "**" then return .binary "**" base (← readLevel steps (level + 4))
          return base

/-- Reads members, items and calls behind a value. -/
def readTrailers : Nat → Expression → Reading Expression
  | 0, _ => fail
  | steps + 1, of => do
    goOn of do
      if ← accept "." then readTrailers steps (.member of (← readName))
      else if ← accept "(" then
        let args ← readArguments steps
        expect ")"
        readTrailers steps (.call of args)
      else if ← accept "[" then
        let key ← readKey steps
        expect "]"
        readTrailers steps (.item of key)
      else return of

/-- Reads an argument of a call. -/
def readArgument : Nat → Reading Expression
  | 0 => fail
  | steps + 1 => do
    if ← accept "**" then return .named "" (← readExpression steps)
    if ← accept "*" then return .spread (← readExpression steps)
    let found ← attempt do
      let name ← readName
      expect "="
      return name
    match found with
    | some name => return .named name (← readExpression steps)
    | none => do
      let token ← peek
      let line := token.line
      whenExplaining do
        if let .name word := token.kind then
          if ["True", "False", "None"].contains word then
            let found ← look do advance; expect "="
            if found.isSome then refuse ("cannot assign to " ++ word) line
        let found ← look do let _ ← readExpression steps; expect "="
        if found.isSome then
          refuse "expression cannot contain assignment, perhaps you meant \"==\"?" line
      let value ← readNamed steps
      if ← isNext "for" then readSource steps "generator" else return value

/-- Reads the arguments of a call. -/
def readArguments : Nat → Reading (List Expression)
  | 0 => fail
  | steps + 1 => do
    if ← isNext ")" then return []
    let line := (← peek).line
    let first ← readArgument steps
    if ← accept "," then
      let isSource : Bool := match first with | .comprehension .. => true | _ => false
      if isSource then
        whenExplaining do
          if !(← isNext ")") then refuse "Generator expression must be parenthesized" line
      let rest ← readArguments steps
      if isSource && !rest.isEmpty then fail
      match first, rest with
      | .named name _, .named .. :: _ => if name = "" then pure () else pure ()
      | .named name _, .spread _ :: _ => if name = "" then fail
      | .named name _, _ :: _ =>
        whenExplaining (refuse ("positional argument follows keyword argument" ++
          (if name = "" then " unpacking" else "")) line)
        fail
      | _, _ => pure ()
      return first :: rest
    return [first]

/-- Reads a part of a key: a value or a slice. -/
def readSlice : Nat → Reading Expression
  | 0 => fail
  | steps + 1 => do
    if ← accept "*" then return .spread (← readLevel steps 4)
    if ← isNext ":" then readSliceFrom steps (.constant .nothing)
    else
      let value ← readNamed steps
      if ← isNext ":" then readSliceFrom steps value else return value

/-- Reads the rest of a slice from its first colon on. -/
def readSliceFrom : Nat → Expression → Reading Expression
  | 0, _ => fail
  | steps + 1, start => do
    let bound : Reading Expression := do
      if (← isNext ":") || (← isNext ",") || (← isNext "]") then return .constant .nothing
      readExpression steps
    expect ":"
    let stop ← bound
    if ← accept ":" then return .slice start stop (← bound)
    return .slice start stop (.constant .nothing)

/-- Reads further parts of a key behind a comma. -/
def readKeys : Nat → Reading (List Expression)
  | 0 => fail
  | steps + 1 => do
    if ← isNext "]" then return []
    let part ← readSlice steps
    if ← accept "," then return part :: (← readKeys steps)
    return [part]

/-- Reads a key: one part, or several with commas. -/
def readKey : Nat → Reading Expression
  | 0 => fail
  | steps + 1 => do
    let first ← readSlice steps
    if ← accept "," then return .tuple (first :: (← readKeys steps))
    match first with
    | .spread _ => return .tuple [first]
    | _ => return first

/-- Reads items up to a closing bracket. -/
def readItems : Nat → String → Reading (List Expression)
  | 0, _ => fail
  | steps + 1, close => do
    if ← isNext close then return []
    let item ← readItem steps
    if ← accept "," then return item :: (← readItems steps close)
    return [item]

/-- Reads the sources of values that are made from others, up to the closing bracket. -/
def readSource : Nat → String → Reading Expression
  | 0, _ => fail
  | steps + 1, typeName => do
    expect "for"
    let _ ← readTargets steps
    expect "in"
    let source ← readLevel steps 0
    readConditions steps
    return .comprehension typeName source

/-- Reads the names that values of a source get. -/
def readTargets : Nat → Reading Unit
  | 0 => fail
  | steps + 1 => do
    let _ ← readLevel steps 4
    if ← accept "," then
      if ← isNext "in" then return
      readTargets steps

/-- Reads conditions and further sources. -/
def readConditions : Nat → Reading Unit
  | 0 => fail
  | steps + 1 => do
    if ← accept "if" then
      let _ ← readLevel steps 0
      readConditions steps
    else if ← accept "for" then
      readTargets steps
      expect "in"
      let _ ← readLevel steps 0
      readConditions steps

/-- Reads an entry of a table. -/
def readEntry : Nat → Reading Expression
  | 0 => fail
  | steps + 1 => do
    if ← accept "**" then return .spread (← readLevel steps 4)
    let line := (← peek).line
    let key ← readExpression steps
    if !(← isNext ":") then
      whenExplaining (refuse "':' expected after dictionary key" line)
      fail
    let colon := (← peek).line
    advance
    if (← isNext "\x7d") || (← isNext ",") then
      whenExplaining (refuse "expression expected after dictionary key and ':'" colon)
    if ← isNext "*" then
      let star := (← peek).line
      whenExplaining do
        let found ← look do advance; readLevel steps 4
        if found.isSome then refuse "cannot use a starred expression in a dictionary value" star
    return .tuple [key, ← readExpression steps]

/-- Reads the entries of a table up to the closing bracket. -/
def readEntries : Nat → Reading (List Expression)
  | 0 => fail
  | steps + 1 => do
    if ← isNext "\x7d" then return []
    let entry ← readEntry steps
    if ← accept "," then return entry :: (← readEntries steps)
    return [entry]

/-- Reads what stands in round brackets. -/
def readGroup : Nat → Reading Expression
  | 0 => fail
  | steps + 1 => do
    let line := (← peek).line
    if ← accept ")" then return .tuple []
    if ← accept "yield" then
      if !(← isNext ")") then
        let _ ← accept "from"
        let _ ← readItems steps ")"
      expect ")"
      return .misplaced "yield" line
    whenExplaining do
      let found ← look do expect "*"; let _ ← readExpression steps; expect ")"
      if found.isSome then refuse "cannot use starred expression here" line
      let found ← look do expect "**"; let _ ← readExpression steps; expect ")"
      if found.isSome then refuse "cannot use double starred expression here" line
    let first ← readItem steps
    if ← isNext "for" then
      let source ← readSource steps "generator"
      expect ")"
      return source
    if ← accept "," then
      let rest ← readItems steps ")"
      expect ")"
      return .tuple (first :: rest)
    match first with
    | .spread _ => fail
    | _ =>
      expect ")"
      return first

/-- Reads what stands in square brackets. -/
def readList : Nat → Reading Expression
  | 0 => fail
  | steps + 1 => do
    if ← accept "]" then return .sequence []
    let first ← readItem steps
    if ← isNext "for" then
      let source ← readSource steps "list"
      expect "]"
      return source
    let rest ← if ← accept "," then readItems steps "]" else pure []
    expect "]"
    return .sequence (first :: rest)

/-- Reads what stands in curly brackets. -/
def readTable : Nat → Reading Expression
  | 0 => fail
  | steps + 1 => do
    if ← accept "\x7d" then return .dict []
    if ← isNext "**" then
      let entries ← readEntries steps
      expect "\x7d"
      return .dict entries
    let here ← get
    let first ← readItem steps
    if ← isNext ":" then
      set here
      let entry ← readEntry steps
      if ← isNext "for" then
        let source ← readSource steps "dict"
        expect "\x7d"
        return source
      let rest ← if ← accept "," then readEntries steps else pure []
      expect "\x7d"
      return .dict (entry :: rest)
    if ← isNext "for" then
      let source ← readSource steps "set"
      expect "\x7d"
      return source
    let rest ← if ← accept "," then readItems steps "\x7d" else pure []
    expect "\x7d"
    return .set (first :: rest)

/-- Reads a value that is no operation. -/
def readAtom : Nat → Reading Expression
  | 0 => fail
  | steps + 1 => do
    let token ← peek
    match token.kind with
    | .number value => advance; return .constant value
    | .text .. => readTexts token.line (← takeTexts (← get).rest.length)
    | .name "None" => advance; return .constant .nothing
    | .name "True" => advance; return .constant (.flag true)
    | .name "False" => advance; return .constant (.flag false)
    | .name _ => return .name (← readName)
    | .sign "..." => advance; return .constant .ellipsis
    | .sign "(" => advance; readGroup steps
    | .sign "[" => advance; readList steps
    | .sign "\x7b" => advance; readTable steps
    | _ => fail

end

/-- Reads further expressions behind a comma. -/
def readMore (steps : Nat) : Nat → Reading (List Expression)
  | 0 => fail
  | count + 1 => do
    match (← peek).kind with
    | .lineEnd | .finish => return []
    | _ =>
      let e ← readExpression steps
      if ← accept "," then return e :: (← readMore steps count)
      return [e]

/-- Takes line ends. -/
def skipLineEnds : Nat → Reading Unit
  | 0 => return
  | steps + 1 => do
    match (← peek).kind with
    | .lineEnd => advance; skipLineEnds steps
    | _ => return

/-- Reads all tokens as one expression, or as several with commas. -/
def readAll (count : Nat) : Reading Expression := do
  let steps := 20 * (count + 2)
  let first ← readExpression steps
  let whole ← if ← accept "," then pure (.tuple (first :: (← readMore steps count))) else pure first
  skipLineEnds count
  match (← peek).kind with
  | .finish => return whole
  | _ => fail

/-- The open bracket at the end of the tokens and its line. -/
def unclosed? (tokens : List Token) : Option (Char × Nat) :=
  match tokens.getLast? with
  | some ⟨.unclosed bracket line, _, _⟩ => some (bracket, line)
  | _ => none

/-- The fault to tell: a bracket that is still open counts more than a fault behind its line. -/
def faultAmong (tokens : List Token) (fault : Fault) : Fault :=
  match unclosed? tokens with
  | some (bracket, line) =>
    if line < fault.line then .form ("'" ++ bracket.toString ++ "' was never closed") line else fault
  | none => fault

/-- Reads tokens. -/
def ofTokens (tokens : List Token) : Except Fault Expression :=
  let start : Position := ⟨tokens, 0⟩
  let reading := readAll tokens.length
  match reading .strict start with
  | .ok (e, _) =>
    match e.misplaced? with
    | some (word, line) => .error (.form ("'" ++ word ++ "' outside function") line)
    | none => .ok e
  | .error (.fault fault) => .error fault
  | .error (.mismatch line isIndent) =>
    match reading .explaining start with
    | .error (.fault fault) => .error fault
    | _ =>
      .error (faultAmong tokens
        (if isIndent then ⟨"IndentationError", "unexpected indent", line⟩
         else .form "invalid syntax" line))

/-- The fault of a line that is indented. -/
def Fault.isIndent (f : Fault) : Bool := f.kind == "IndentationError"

/-- Reads a text that is an expression from its first character on. -/
def readWhole (text : String) : Except Fault Expression :=
  let cut := cut text
  match ofTokens cut.tokens, cut.fault with
  | .error found, some fault => .error (if found.isIndent then found else fault)
  | .ok _, some fault => .error fault
  | result, none => result

/-- Reads a written hint. Blanks before it count for nothing. -/
def read (text : String) : Except Fault Expression :=
  readWhole (String.ofList (text.toList.dropWhile fun c => c = ' ' || c = '\t'))

end SchemaRegistry.Written
