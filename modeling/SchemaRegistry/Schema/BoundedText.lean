import SchemaRegistry.Text.Blank

/-!
# Texts of limited length

Lengths count characters. A trimmed text has no white space at either end, and its limits apply to what
trimming leaves.
-/

namespace SchemaRegistry

/-- The least and the greatest length of a text. -/
structure Limits where
  least : Nat := 0
  most : Option Nat := none
deriving DecidableEq, Repr

/-- A text of `n` characters is within the limits. -/
def Limits.Admit (l : Limits) (n : Nat) : Prop := l.least ≤ n ∧ ∀ most, l.most = some most → n ≤ most

instance (l : Limits) (n : Nat) : Decidable (l.Admit n) :=
  match h : l.most with
  | none => decidable_of_iff (l.least ≤ n) (by simp [Limits.Admit, h])
  | some most => decidable_of_iff (l.least ≤ n ∧ n ≤ most) (by simp [Limits.Admit, h])

/-- A text within limits. -/
structure BoundedText (limits : Limits) where
  text : String
  fits : limits.Admit text.length
deriving DecidableEq, Repr

/-- A trimmed text within limits. -/
structure TrimmedText (limits : Limits) where
  text : String
  fits : limits.Admit text.length
  trimmed : Text.trim text = text
deriving DecidableEq, Repr

end SchemaRegistry
