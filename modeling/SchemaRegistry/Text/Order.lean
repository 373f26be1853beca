/-!
# Names in code-point order

Reports list names strictly increasing by code point. `nameSet` brings a list of names into that form:
sorted, each name once.
-/

namespace SchemaRegistry.Text

/-- Puts a name into its place in a strictly increasing list, or leaves the list alone if it has it. -/
def insertName (name : String) : List String → List String
  | [] => [name]
  | head :: rest =>
    if name < head then name :: head :: rest
    else if name = head then head :: rest
    else head :: insertName name rest

/-- The names of a list, each once and in code-point order. -/
def nameSet (names : List String) : List String := names.foldr insertName []

@[simp]
theorem mem_insertName {name x : String} {names : List String} :
    x ∈ insertName name names ↔ x = name ∨ x ∈ names := by
  induction names with
  | nil => simp [insertName]
  | cons head rest ih =>
    simp only [insertName]
    split
    · simp
    · split
      · rename_i _ heq
        simp [heq]
      · simp only [List.mem_cons, ih]
        grind

@[simp]
theorem mem_nameSet {x : String} {names : List String} : x ∈ nameSet names ↔ x ∈ names := by
  induction names with
  | nil => simp [nameSet]
  | cons name rest ih =>
    rw [nameSet, List.foldr_cons, mem_insertName, List.mem_cons]
    exact or_congr_right ih

/-- Putting a name into its place keeps the order of the others. -/
theorem pairwise_insertName (name : String) {names : List String} (h : names.Pairwise (· < ·)) :
    (insertName name names).Pairwise (· < ·) := by
  induction names with
  | nil => simp [insertName]
  | cons head rest ih =>
    have hrest := List.pairwise_cons.mp h
    simp only [insertName]
    split
    case isTrue hlt =>
      refine List.pairwise_cons.mpr ⟨fun x hx => ?_, h⟩
      rcases List.mem_cons.mp hx with rfl | hx
      · exact hlt
      · exact String.lt_trans hlt (hrest.1 x hx)
    case isFalse hnot =>
      split
      · exact h
      case isFalse hne =>
        have hlt : head < name := by
          rw [← String.not_le]
          exact fun hle => hne (String.le_antisymm hle (String.not_lt.mp hnot))
        refine List.pairwise_cons.mpr ⟨fun x hx => ?_, ih hrest.2⟩
        rcases mem_insertName.mp hx with rfl | hx
        · exact hlt
        · exact hrest.1 x hx

/-- The names of a set strictly increase. -/
theorem pairwise_nameSet (names : List String) : (nameSet names).Pairwise (· < ·) := by
  induction names with
  | nil => simp [nameSet]
  | cons name rest ih => exact pairwise_insertName name ih

end SchemaRegistry.Text
