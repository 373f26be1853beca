import SchemaRegistry.Text.Quoted
import SchemaRegistry.Text.Utf8

/-!
# Texts with halves of characters

A string of a program may hold halves of surrogate pairs that have lost the other half. Such a string is no text:
it has no bytes in UTF-8. It can be held and compared all the same.
-/

namespace SchemaRegistry

/-- A text that may hold halves of characters. -/
structure LooseText where
  /-- The characters. -/
  text : String
  /-- The numbers of the halves, each behind the number of characters before it. -/
  halves : List (Nat × Nat)
deriving DecidableEq, Repr

namespace LooseText

/-- A text as it is. -/
def ofText (text : String) : LooseText := ⟨text, []⟩

instance : Coe String LooseText := ⟨ofText⟩

/-- All of it are characters. -/
def IsText (t : LooseText) : Prop := t.halves = []

instance (t : LooseText) : Decidable t.IsText := inferInstanceAs (Decidable (t.halves = []))

/-- The text, if all of it are characters. -/
def text? (t : LooseText) : Option String := if t.IsText then some t.text else none

@[simp]
theorem isText_ofText (text : String) : (ofText text).IsText := rfl

@[simp]
theorem ofText_inj {a b : String} : ofText a = ofText b ↔ a = b := by simp [ofText]

@[simp]
theorem text?_ofText (text : String) : (ofText text).text? = some text := rfl

/-- The characters and the numbers of the halves, in their order, the first of which has `before` characters before
it. -/
def unitsFrom (before : Nat) (halves : List (Nat × Nat)) : List Char → List (Char ⊕ Nat)
  | [] => halves.map fun (_, half) => .inr half
  | c :: cs =>
    let isNext : Nat × Nat → Bool := fun (position, _) => position ≤ before
    (halves.takeWhile isNext).map (fun (_, half) => .inr half) ++
      .inl c :: unitsFrom (before + 1) (halves.dropWhile isNext) cs

/-- The characters and the numbers of the halves. -/
def units (t : LooseText) : List (Char ⊕ Nat) := unitsFrom 0 t.halves t.text.toList

/-- The first character, unless a half is before it. -/
def first? (t : LooseText) : Option Char :=
  match t.halves with
  | (0, _) :: _ => none
  | _ => t.text.toList.head?

/-- The text with marks in place of the halves: one for each of the three bytes that a half would have. -/
def lossy (t : LooseText) : String :=
  String.ofList (t.units.flatMap fun
    | .inl c => [c]
    | .inr _ => List.replicate 3 Text.Utf8.replacement)

/-- The text in quotes. -/
def quoted (t : LooseText) : String :=
  let quote := Text.quoteFor t.text.toList
  let shown : Char ⊕ Nat → List Char
    | .inl c => Text.quoteChar quote c
    | .inr half => '\\' :: 'u' :: Text.hexDigits 4 half
  String.ofList (quote :: t.units.flatMap shown ++ [quote])

end LooseText

end SchemaRegistry
