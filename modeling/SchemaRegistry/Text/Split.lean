/-!
# Splitting text

`splitOn` cuts a text at every occurrence of a character, so there is one part more than occurrences. `words`
are the parts between spaces. `lines` cuts at line ends, which close a line: nothing follows the last of them.
-/

namespace SchemaRegistry.Text

/-- The parts between the occurrences of `separator`. -/
def splitOn (separator : Char) : List Char → List (List Char)
  | [] => [[]]
  | c :: rest =>
    if c = separator then [] :: splitOn separator rest
    else
      match splitOn separator rest with
      | [] => [[c]]
      | part :: more => (c :: part) :: more

/-- The parts of a text between spaces. -/
def words (s : String) : List String :=
  ((splitOn ' ' s.toList).filter fun word => !word.isEmpty).map String.ofList

/-- The character ends a line. -/
def isLineEnd (c : Char) : Bool :=
  (0x0A ≤ c.toNat && c.toNat ≤ 0x0D) || (0x1C ≤ c.toNat && c.toNat ≤ 0x1E) || c.toNat == 0x85 ||
    c.toNat == 0x2028 || c.toNat == 0x2029

/-- The lines of the characters that follow `line`, which is reversed. A carriage return and a line feed
after it are one line end. -/
def linesAfter (line : List Char) : List Char → List (List Char)
  | [] => if line.isEmpty then [] else [line.reverse]
  | '\r' :: '\n' :: rest => line.reverse :: linesAfter [] rest
  | c :: rest => if isLineEnd c then line.reverse :: linesAfter [] rest else linesAfter (c :: line) rest

/-- The lines of a text. -/
def lines (s : String) : List String := (linesAfter [] s.toList).map String.ofList

end SchemaRegistry.Text
