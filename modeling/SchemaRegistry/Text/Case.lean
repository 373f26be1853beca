import SchemaRegistry.Text.CaseTable
import SchemaRegistry.Text.CasedTable

/-!
# Upper and lower case

`upper` is the folding under which attribute and field names are compared. It is the full mapping of
Unicode, so one character may become three, and no normalisation takes place.
-/

namespace SchemaRegistry.Text

/-- The upper case of one character. -/
def upperChar (c : Char) : List Char :=
  match upperExpansions.lookup c.toNat with
  | some expansion => expansion.map Char.ofNat
  | none => [Char.ofNat ((mapped? upperRows c.toNat).getD c.toNat)]

/-- The upper case of a text, character by character. -/
def upper (s : String) : String := String.ofList (s.toList.flatMap upperChar)

/-- The first character that decides the context of a sigma is cased. -/
def meetsCased (cs : List Char) : Bool :=
  match cs.dropWhile caseIgnorable.contains with
  | [] => false
  | c :: _ => cased.contains c

/-- The lower case of one character, apart from a capital sigma. -/
def lowerChar (c : Char) : List Char :=
  if c.toNat = 0x0130 then ['i', Char.ofNat 0x0307]
  else [Char.ofNat ((mapped? lowerRows c.toNat).getD c.toNat)]

/-- The lower case of the characters that follow `before`, which is reversed. A capital sigma takes its
final form after a cased character and before none. -/
def lowerAfter (before : List Char) : List Char → List Char
  | [] => []
  | c :: rest =>
    let image :=
      if c.toNat = 0x03A3 then
        if meetsCased before && !meetsCased rest then [Char.ofNat 0x03C2] else [Char.ofNat 0x03C3]
      else lowerChar c
    image ++ lowerAfter (c :: before) rest

/-- The lower case of a text. -/
def lower (s : String) : String := String.ofList (lowerAfter [] s.toList)

end SchemaRegistry.Text
