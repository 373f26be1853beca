import SchemaRegistry.Host.Typing

/-!
# Operators

What the operators of an expression make of values: sums and other results of numbers and rows, comparisons,
and whether a value counts as true. A number that is not whole is known by its type and by whether it is
zero, because nothing else about it decides what a field holds or what fails.
-/

namespace SchemaRegistry

namespace Hint

/-! ## Truth -/

/-- The value counts as true: it is not `None`, not zero and not empty. -/
def isTrue : Hint → Bool
  | nothing => false
  | flag value => value
  | whole value => value != 0
  | real (.finite _ significand _) => significand != 0
  | text value => !value.isEmpty
  | sequence items | tuple items | set items => !items.isEmpty
  | dict entries => !entries.isEmpty
  | member of _ value => !(of.traits.any [Trait.integer, .flags, .string].contains) || isTrue value
  | _ => true

/-! ## Numbers -/

/-- A number as far as operators tell numbers apart. -/
inductive Quantity where
  | whole (value : Int)
  /-- A number of another type. -/
  | inexact (typeName : String) (isZero : Bool)

/-- The number that a value is. -/
def quantity? (h : Hint) : Option Quantity :=
  match h with
  | real _ => some (.inexact "float" !h.isTrue)
  | other typeName _ =>
    if ["int", "float", "complex"].contains typeName then some (.inexact typeName false) else none
  | h => h.whole?.map .whole

namespace Quantity

/-- The number is zero. -/
def isZero : Quantity → Bool
  | whole value => value == 0
  | inexact _ isZero => isZero

/-- The name of the type of results of two numbers. -/
def joinedType : Quantity → Quantity → String
  | whole _, whole _ => "int"
  | inexact "complex" _, _ | _, inexact "complex" _ => "complex"
  | inexact "int" _, inexact "int" _ | inexact "int" _, whole _ | whole _, inexact "int" _ => "int"
  | _, _ => "float"

end Quantity

/-- The largest exponent of a power that is worked out. -/
def exponentBound : Int := 4096

/-- The bits of two whole numbers, those of both. -/
def bothBits (a b : Int) : Int := -eitherBits (-a - 1) (-b - 1) - 1

/-- The failure of a division by zero. -/
def zeroDivision (message : String) : Failure := .raised "ZeroDivisionError" message

/-- The result of two whole numbers. There is none for an operator that takes no whole numbers. -/
def wholeResult? (sign : String) (m n : Int) : Option (Except Failure Hint) :=
  match sign with
  | "+" => some (.ok (whole (m + n)))
  | "-" => some (.ok (whole (m - n)))
  | "*" => some (.ok (whole (m * n)))
  | "/" => some (if n = 0 then .error (zeroDivision "division by zero") else .ok (ofType "float"))
  | "//" =>
    some
      (if n = 0 then .error (zeroDivision "integer division or modulo by zero")
      else .ok (whole (Int.fdiv m n)))
  | "%" =>
    some
      (if n = 0 then .error (zeroDivision "integer modulo by zero") else .ok (whole (Int.fmod m n)))
  | "**" =>
    some
      (if 0 ≤ n then
        if n ≤ exponentBound then .ok (whole (Int.pow m n.toNat)) else .ok (ofType "int")
      else if m = 0 then .error (zeroDivision "0.0 cannot be raised to a negative power")
      else .ok (ofType "float"))
  | "<<" | ">>" =>
    some
      (if n < 0 then .error (.raised "ValueError" "negative shift count")
      else if exponentBound < n then .ok (ofType "int")
      else if sign = "<<" then .ok (whole (m * (Nat.pow 2 n.toNat : Nat)))
      else .ok (whole (Int.fdiv m (Nat.pow 2 n.toNat : Nat))))
  | "&" => some (.ok (whole (bothBits m n)))
  | "^" => some (.ok (whole (eitherBits m n - bothBits m n)))
  | _ => none

/-- The result of two numbers that are not both whole. -/
def inexactResult? (sign : String) (a b : Quantity) : Option (Except Failure Hint) :=
  let typeName := a.joinedType b
  let result (divides : Option String) : Option (Except Failure Hint) :=
    match divides with
    | some message => some (if b.isZero then .error (zeroDivision message) else .ok (ofType typeName))
    | none => some (.ok (ofType typeName))
  match sign, typeName with
  | "+", _ | "-", _ | "*", _ | "**", _ => result none
  | "/", _ => result (some (typeName ++ " division by zero"))
  | "//", "float" => result (some "float floor division by zero")
  | "%", "float" => result (some "float modulo")
  | "//", "int" => result (some "integer division or modulo by zero")
  | "%", "int" => result (some "integer modulo by zero")
  | "<<", "int" | ">>", "int" | "&", "int" | "^", "int" => result none
  | _, _ => none

/-! ## Rows of values -/

/-- The largest row that is built by repeating one. -/
def repeatBound : Nat := 100000

/-- So many copies of a list in a row. A row beyond the bound keeps one copy. -/
def copies {α : Type} (n : Int) (items : List α) : List α :=
  if n.toNat * items.length ≤ repeatBound then (List.replicate n.toNat items).flatten else items

/-- A row of values as many times as a number says. -/
def repeated? (h : Hint) (n : Int) : Option Hint :=
  match h with
  | sequence items => some (sequence (copies n items))
  | tuple items => some (tuple (copies n items))
  | h => h.text?.map fun s => text (String.ofList (copies n s.toList))

/-- The value is a row of values. -/
def isRow (h : Hint) : Bool := (h.repeated? 0).isSome

/-- A row with another one behind it. -/
def extended (a b : Hint) : Except Failure Hint :=
  match a, b with
  | sequence items, sequence items' => .ok (sequence (items ++ items'))
  | tuple items, tuple items' => .ok (tuple (items ++ items'))
  | a, b =>
    match a.text?, b.text? with
    | some s, some s' => .ok (text (s ++ s'))
    | found, _ =>
      let typeName := if found.isSome then "str" else a.typeName
      .error (.ofType ("can only concatenate " ++ typeName ++ " (not " ++ "\"" ++ b.typeName ++ "\") to " ++
        typeName))

/-- A row next to something that is to say how often it is repeated. -/
def multiplied (row times : Hint) : Except Failure Hint :=
  match times.whole? with
  | some n => .ok ((row.repeated? n).getD row)
  | none =>
    .error (.ofType ("can't multiply sequence by non-int of type " ++ Text.quoted times.typeName))

/-- A text with values put in. A text without places takes none. -/
def formatted (s : String) (values : Hint) : Except Failure Hint :=
  let isSpare : Bool :=
    match values with
    | tuple [] | dict _ | sequence _ => false
    | _ => true
  if !s.toList.contains '%' && isSpare then
    .error (.ofType "not all arguments converted during string formatting")
  else .ok (ofType "str")

/-- The result of two sets. -/
def setResult? (sign : String) (a b : List Hint) : Option Hint :=
  let isIn (items : List Hint) (h : Hint) : Bool := items.any h.same
  match sign with
  | "-" => some (set (a.filter fun h => !isIn b h))
  | "&" => some (set (a.filter (isIn b)))
  | "^" => some (set ((a.filter fun h => !isIn b h) ++ b.filter fun h => !isIn a h))
  | _ => none

/-! ## Operators with two operands -/

/-- How failures name an operator. -/
def signName (sign : String) : String := if sign = "**" then "** or pow()" else sign

/-- The result of two operands. -/
def combined (sign : String) (a b : Hint) : Except Failure Hint :=
  let bad : Except Failure Hint := .error (badOperands (signName sign) a b)
  match sign, a, b with
  | "|", a, b => either a b
  | "&", flag p, flag q => .ok (flag (p && q))
  | "^", flag p, flag q => .ok (flag (p != q))
  | sign, set items, set items' =>
    match setResult? sign items items' with
    | some h => .ok h
    | none => bad
  | sign, a, b =>
    match a.quantity?, b.quantity? with
    | some (.whole m), some (.whole n) => (wholeResult? sign m n).getD bad
    | some p, some q => (inexactResult? sign p q).getD bad
    | _, _ =>
      match sign with
      | "+" => if a.isRow then extended a b else bad
      | "*" =>
        if a.isRow then multiplied a b
        else if b.isRow then multiplied b a
        else bad
      | "%" =>
        match a.text? with
        | some s => formatted s b
        | none => bad
      | _ => bad

/-! ## Operators with one operand -/

/-- The result of one operand. -/
def negated (sign : String) (h : Hint) : Except Failure Hint :=
  let bad : Except Failure Hint :=
    .error (.ofType ("bad operand type for unary " ++ sign ++ ": " ++ Text.quoted h.typeName))
  match sign, h.quantity? with
  | "not", _ => .ok (flag !h.isTrue)
  | "-", some (.whole n) => .ok (whole (-n))
  | "+", some (.whole n) => .ok (whole n)
  | "~", some (.whole n) => .ok (whole (-n - 1))
  | "~", some (.inexact "int" _) => .ok (ofType "int")
  | "~", _ => bad
  | "-", some (.inexact ..) | "+", some (.inexact ..) => .ok h
  | _, _ => bad

/-! ## Comparisons -/

/-- The two numbers are in this order, if their values are known. -/
def isBelow? (a b : Hint) : Option Bool :=
  match a.ratio?, b.ratio? with
  | some (m, d), some (n, e) => some (m * e < n * d)
  | _, _ => none

/-- The failure of values that have no order. -/
def unordered (sign : String) (a b : Hint) : Failure :=
  .ofType (Text.quoted sign ++ " not supported between instances of " ++ Text.quoted a.typeName ++
    " and " ++ Text.quoted b.typeName)

/-- The order of two texts, by characters. -/
def orderedTexts (sign s t : String) : Bool :=
  match sign with
  | "<" => s < t
  | "<=" => s ≤ t
  | ">" => t < s
  | _ => t ≤ s

/-- The two sets are in the order of a sign: one holds the other. -/
def orderedSets (sign : String) (a b : List Hint) : Bool :=
  match sign with
  | "<" => allIn a b && a.length < b.length
  | "<=" => allIn a b
  | ">" => allIn b a && b.length < a.length
  | _ => allIn b a

mutual

/-- The two values are in the order of a sign. -/
def ordered (sign : String) : Hint → Hint → Except Failure Bool
  | sequence items, sequence items' => orderedRows sign items items'
  | tuple items, tuple items' => orderedRows sign items items'
  | set items, set items' => .ok (orderedSets sign items items')
  | a, b =>
    match a.quantity?, b.quantity?, a.text?, b.text? with
    | some p, some q, _, _ =>
      if p.joinedType q = "complex" then .error (unordered sign a b)
      else
        match sign with
        | "<" => .ok ((isBelow? a b).getD false)
        | ">" => .ok ((isBelow? b a).getD false)
        | "<=" => .ok (((isBelow? b a).map (!·)).getD false)
        | _ => .ok (((isBelow? a b).map (!·)).getD false)
    | _, _, some s, some t => .ok (orderedTexts sign s t)
    | _, _, _, _ => .error (unordered sign a b)

/-- The two rows are in the order of a sign: the first different values decide, then the lengths. -/
def orderedRows (sign : String) : List Hint → List Hint → Except Failure Bool
  | [], [] => .ok (sign = "<=" || sign = ">=")
  | [], _ :: _ => .ok (sign = "<" || sign = "<=")
  | _ :: _, [] => .ok (sign = ">" || sign = ">=")
  | h :: rest, h' :: rest' => if h.same h' then orderedRows sign rest rest' else ordered sign h h'

end

/-- The two values are one and the same. -/
def isSelf (a b : Hint) : Bool := a.typeName == b.typeName && sameAtom a b

/-- A value is among those of another one. -/
def isPartOf (a whole : Hint) : Except Failure Bool :=
  let isIn (items : List Hint) : Bool := items.any a.same
  let hashed (items : List Hint) : Except Failure Bool :=
    match a.unhashable? with
    | some typeName => .error (.unhashableType typeName)
    | none => .ok (isIn items)
  match whole with
  | sequence items | tuple items => .ok (isIn items)
  | set items => hashed items
  | dict entries => hashed (entries.filterMap fun | tuple (key :: _) => some key | _ => none)
  | h =>
    match h.text?, a.text? with
    | some s, some part => .ok ((s.splitOn part).length != 1 || part.isEmpty)
    | some _, none =>
      .error (.ofType ("'in <string>' requires string as left operand, not " ++ a.typeName))
    | none, _ =>
      .error (.ofType ("argument of type " ++ Text.quoted h.typeName ++ " is not iterable"))

/-- Two values compared by a sign. -/
def compared (sign : String) (a b : Hint) : Except Failure Bool :=
  match sign with
  | "==" => .ok (a.same b)
  | "!=" => .ok (!a.same b)
  | "is" => .ok (a.isSelf b)
  | "is not" => .ok (!a.isSelf b)
  | "in" => a.isPartOf b
  | "not in" => (a.isPartOf b).map (!·)
  | sign => ordered sign a b

end Hint

end SchemaRegistry
