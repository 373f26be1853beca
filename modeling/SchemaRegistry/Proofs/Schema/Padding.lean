import Mathlib.Data.List.TakeWhile
import SchemaRegistry.Proofs.Schema.Alterations

/-!
# Padding

The parts of a key and the texts of an attribute are trimmed before anything else is asked of them. So white
space around them is ignored: the value is taken as the same one, or is refused for the same faults, since
lengths are taken of what trimming leaves. `Pads` says of texts, keys, attributes and registrations which values
come of a value in this way.
-/

namespace SchemaRegistry

open Checked

/-! ## Texts -/

namespace Text

/-- What is to be dropped from the ends of a list may stand there any number of times. -/
theorem trimList_append {p : Char → Bool} {front back : List Char} (hfront : ∀ c ∈ front, p c)
    (hback : ∀ c ∈ back, p c) (cs : List Char) : trimList p (front ++ cs ++ back) = trimList p cs := by
  have hends : (front ++ cs ++ back).dropWhile p = (cs ++ back).dropWhile p := by
    rw [List.append_assoc, List.dropWhile_append_of_pos hfront]
  rw [trimList, trimList, hends, List.dropWhile_append]
  -- If nothing of the list itself is left, neither is anything of what stands behind it.
  split
  case isTrue hnothing =>
    rw [List.isEmpty_iff.mp hnothing, List.dropWhile_eq_nil_iff.mpr hback]
  case isFalse =>
    have hreverse : ∀ c ∈ back.reverse, p c := fun c hc => hback c (List.mem_reverse.mp hc)
    rw [List.reverse_append, List.dropWhile_append_of_pos hreverse]

/-- The second text is the first with white space in front of it and behind it. -/
def Pads (s padded : String) : Prop :=
  ∃ front back : String, front.toList.all isBlank ∧ back.toList.all isBlank ∧ padded = front ++ s ++ back

theorem trim_of_pads {s padded : String} (h : Pads s padded) : trim padded = trim s := by
  obtain ⟨front, back, hfront, hback, rfl⟩ := h
  rw [trim, trim, String.toList_append, String.toList_append,
    trimList_append (List.all_eq_true.mp hfront) (List.all_eq_true.mp hback)]

end Text

/-- A text with white space around it. Any other value stays as it is. -/
inductive Json.Pads : Json → Json → Prop where
  | same (value : Json) : Pads value value
  | text {s padded : String} (pads : Text.Pads s padded) : Pads (.str s) (.str padded)

namespace Checked

/-- Trimming takes the padding away before the length is measured. -/
theorem ignores_trimmed (limits : Limits) : Ignores (trimmed limits) Json.Pads := by
  intro value padded hpads
  cases hpads with
  | same => rfl
  | text hpads => simp only [trimmed, Checked.text, andThen, Text.trim_of_pads hpads]

theorem ignores_nullable_trimmed (limits : Limits) : Ignores (nullable (trimmed limits)) Json.Pads := by
  intro value padded hpads
  cases hpads with
  | same => rfl
  | text hpads =>
    show some <$> trimmed limits _ = some <$> trimmed limits _
    rw [ignores_trimmed limits _ _ (.text hpads)]

end Checked

/-! ## Models -/

/-- A key with white space around its parts. -/
def Key.Pads : Json → Json → Prop := OnObject (AlterFields (fun _ => True) fun _ => Json.Pads)

/-- An attribute with white space around its name, its description and its values. -/
def Attribute.Pads : Json → Json → Prop :=
  OnObject (AlterFields (fun _ => True) fun
    | "name" | "description" => Json.Pads
    | "values" => OnArray Json.Pads
    | _ => Eq)

/-- A registration with white space around the parts of its key and the texts of its attributes. -/
def Registration.Pads : Json → Json → Prop :=
  OnObject (AlterFields (fun _ => True) fun
    | "schema_key" => Key.Pads
    | "attributes" => OnArray Attribute.Pads
    | _ => Eq)

theorem Key.ignores_pads : Ignores Key.check Key.Pads :=
  Key.ignores_of_parts fun _ _ => ⟨trivial, ignores_trimmed _⟩

/-- The tag of an attribute is not padded, so it selects the same kind. -/
theorem Attribute.ignores_pads : Ignores Attribute.check Attribute.Pads := by
  refine ignores_of_selected (fun before after haltered => ?_) fun before after kind haltered _ => ?_
  · exact haltered.lookup_eq trivial rfl
  · exact ignores_checkFields ⟨trivial, ignores_trimmed _⟩ ⟨trivial, ignores_nullable_trimmed _⟩
      ⟨trivial, ignores_eq _⟩ (fun _ => ⟨trivial, (ignores_trimmed _).tuple⟩) before after haltered

theorem Registration.ignores_pads : Ignores Registration.check Registration.Pads := by
  refine ignores_of_parts (fun _ _ => trivial) Key.ignores_pads (Attribute.ignores_pads.nonemptyTuple.andThen _)
    fun name hkey hattributes => ?_
  split <;> first | contradiction | rfl

end SchemaRegistry
