/-!
# Closed choices

A closed choice is a type with finitely many members, each written as a word of its own. Reading a word back
is looking it up among the members.
-/

namespace SchemaRegistry

/-- A type whose members are listed in order and written as distinct words. -/
class Choice (α : Type) where
  /-- The members, in the order in which messages list them. -/
  members : List α
  /-- The word of a member. -/
  word : α → String
  /-- Every member is listed. -/
  mem_members : ∀ a, a ∈ members
  /-- No two members share a word. -/
  word_injective : ∀ a b, word a = word b → a = b

namespace Choice

variable {α : Type} [Choice α]

/-- The member that a word stands for. -/
def ofWord? (word : String) : Option α := (members : List α).find? fun a => Choice.word a == word

/-- The words of the members. -/
def words (α : Type) [Choice α] : List String := (members : List α).map word

@[simp]
theorem ofWord?_word (a : α) : ofWord? (word a) = some a := by
  unfold ofWord?
  cases h : (members : List α).find? fun b => word b == word a with
  | none =>
    rw [List.find?_eq_none] at h
    simpa using h a (mem_members a)
  | some b =>
    have hword := List.find?_some h
    rw [word_injective b a (by simpa using hword)]

end Choice

end SchemaRegistry
