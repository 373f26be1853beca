import Mathlib.Algebra.BigOperators.Intervals
import Mathlib.Data.Nat.Choose.Basic

/-!
# Joined texts

Three texts are joined by colons, and nothing marks the two that join among those which the texts have themselves. So
the same text can be joined in several ways. These differ in where the joining colons stand among the others: a text
together with the numbers of colons in the first two parts tells the parts. There are as many places for two joining
colons as there are pairs among all of them.
-/

namespace SchemaRegistry

namespace Text

/-- The number of colons in a text. -/
def colons (text : String) : Nat := text.toList.count ':'

/-- Three texts joined by colons. -/
def joined (parts : String × String × String) : String := parts.1 ++ ":" ++ parts.2.1 ++ ":" ++ parts.2.2

/-- Lists that are cut behind equally many separators are cut in the same place. -/
theorem append_cons_inj_of_count_eq {α : Type} [DecidableEq α] {x : α} {a a' b b' : List α}
    (h : a ++ x :: b = a' ++ x :: b') (hcount : a.count x = a'.count x) : a = a' ∧ b = b' := by
  induction a generalizing a' with
  | nil =>
    cases a' with
    | nil => exact ⟨rfl, List.tail_eq_of_cons_eq h⟩
    | cons y a' =>
      obtain rfl : x = y := List.head_eq_of_cons_eq h
      simp at hcount
  | cons y a ih =>
    cases a' with
    | nil =>
      obtain rfl : y = x := List.head_eq_of_cons_eq h
      simp at hcount
    | cons z a' =>
      obtain ⟨rfl, htail⟩ := List.cons.inj h
      rw [List.count_cons, List.count_cons, Nat.add_right_cancel_iff] at hcount
      obtain ⟨rfl, rfl⟩ := ih htail hcount
      exact ⟨rfl, rfl⟩

variable {parts parts' : String × String × String}

/-- Joined texts are the same if those before the last have equally many colons. -/
theorem joined_inj (h : joined parts = joined parts') (hfirst : colons parts.1 = colons parts'.1)
    (hsecond : colons parts.2.1 = colons parts'.2.1) : parts = parts' := by
  obtain ⟨a, b, c⟩ := parts
  obtain ⟨a', b', c'⟩ := parts'
  have hchars : a.toList ++ ':' :: (b.toList ++ ':' :: c.toList) =
      a'.toList ++ ':' :: (b'.toList ++ ':' :: c'.toList) := by
    simpa [joined] using congrArg String.toList h
  obtain ⟨ha, hrest⟩ := append_cons_inj_of_count_eq hchars hfirst
  obtain ⟨hb, hc⟩ := append_cons_inj_of_count_eq hrest hsecond
  rw [String.toList_inj.mp ha, String.toList_inj.mp hb, String.toList_inj.mp hc]

/-- Joining adds two colons. -/
theorem colons_joined (parts : String × String × String) :
    colons (joined parts) = colons parts.1 + colons parts.2.1 + colons parts.2.2 + 2 := by
  simp [colons, joined]
  omega

/-- The places of the two joining colons among the colons of the joined text, the second one and then the first. -/
def joints (parts : String × String × String) : (_ : Nat) × Nat :=
  ⟨colons parts.1 + colons parts.2.1 + 1, colons parts.1⟩

/-- A text is joined of parts in at most as many ways as it has pairs of colons. -/
theorem length_le_of_joined {ways : List (String × String × String)} {text : String} (hnodup : ways.Nodup)
    (h : ∀ parts ∈ ways, joined parts = text) : ways.length ≤ (colons text).choose 2 := by
  let pairs : Finset ((_ : Nat) × Nat) := (Finset.range (colons text)).sigma fun second => Finset.range second
  have hmaps : ∀ parts ∈ ways.toFinset, joints parts ∈ pairs := by
    intro parts hparts
    have hcolons := colons_joined parts
    rw [h parts (List.mem_toFinset.mp hparts)] at hcolons
    simp only [pairs, joints, Finset.mem_sigma, Finset.mem_range]
    omega
  have hinj : Set.InjOn joints ways.toFinset := by
    intro parts hparts parts' hparts' hjoints
    simp only [joints, Sigma.mk.injEq, heq_eq_eq] at hjoints
    obtain ⟨hsecond, hfirst⟩ := hjoints
    have hjoined : joined parts = joined parts' :=
      (h parts (List.mem_toFinset.mp hparts)).trans (h parts' (List.mem_toFinset.mp hparts')).symm
    exact joined_inj hjoined hfirst (by omega)
  calc ways.length
      = ways.toFinset.card := (List.toFinset_card_of_nodup hnodup).symm
    _ ≤ pairs.card := Finset.card_le_card_of_injOn joints hmaps hinj
    _ = (colons text).choose 2 := by
      rw [Finset.card_sigma, Nat.choose_two_right]
      simp only [Finset.card_range, Finset.sum_range_id]

end Text

end SchemaRegistry
