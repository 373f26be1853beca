import Mathlib.Data.List.Basic
import SchemaRegistry.Text.Case

/-!
# Upper case is final

A text in upper case is its own upper case: the characters that an upper case is made of are not mapped any
further. The tables are checked for this as two sets of code points, those that are mapped and those that they
are mapped to, which must have none in common. A set is a number with one bit for each code point, so the
comparison is one operation on numbers.
-/

namespace SchemaRegistry.Text

/-! ## Sets of code points -/

/-- The number that has the bits of a list and no others. -/
def bitsOf (ns : List Nat) : Nat := ns.foldr (fun n bits => 1 <<< n ||| bits) 0

theorem testBit_bitsOf (ns : List Nat) (n : Nat) : (bitsOf ns).testBit n = decide (n ∈ ns) := by
  induction ns with
  | nil => simp [bitsOf]
  | cons m rest ih =>
    rw [bitsOf, List.foldr_cons, ← bitsOf, Nat.testBit_or, ih, Nat.one_shiftLeft, Nat.testBit_two_pow]
    simp [eq_comm]

theorem not_mem_of_bitsOf_and {ms ns : List Nat} (h : bitsOf ms &&& bitsOf ns = 0) {n : Nat} (hn : n ∈ ms) :
    n ∉ ns := by
  have hbit : (bitsOf ms &&& bitsOf ns).testBit n = false := by rw [h, Nat.zero_testBit]
  rw [Nat.testBit_and, testBit_bitsOf, testBit_bitsOf] at hbit
  simpa [hn] using hbit

/-! ## What is mapped and what it is mapped to -/

/-- The code points that a row covers. -/
def CaseRow.codes (row : CaseRow) : List Nat :=
  (List.range ((row.last - row.first) / row.stride + 1)).map fun k => row.first + k * row.stride

theorem CaseRow.mem_codes {row : CaseRow} {n : Nat} (h : row.covers n) : n ∈ row.codes := by
  simp only [covers, Bool.and_eq_true, decide_eq_true_eq, beq_iff_eq] at h
  obtain ⟨⟨hfirst, hlast⟩, hstride⟩ := h
  have hplace : (n - row.first) / row.stride * row.stride = n - row.first :=
    Nat.div_mul_cancel (Nat.dvd_of_mod_eq_zero hstride)
  have hcount : (n - row.first) / row.stride ≤ (row.last - row.first) / row.stride :=
    Nat.div_le_div_right (by omega)
  refine List.mem_map.mpr ⟨(n - row.first) / row.stride, List.mem_range.mpr (by omega), ?_⟩
  omega

/-- The code points with another upper case. -/
def lowerCodes : List Nat := upperExpansions.map Prod.fst ++ upperRows.flatMap CaseRow.codes

/-- The code points that their upper cases are made of. -/
def upperCodes : List Nat :=
  upperExpansions.flatMap Prod.snd ++
    upperRows.flatMap fun row => row.codes.map fun (n : Nat) => ((n : Int) + row.shift).toNat

/-- No upper case is made of code points with another upper case. -/
theorem bitsOf_upperCodes_and : bitsOf upperCodes &&& bitsOf lowerCodes = 0 := by decide +kernel

theorem toNat_ofNat_of_mem {n : Nat} (h : n ∈ upperCodes) : (Char.ofNat n).toNat = n := by
  have hall : ∀ n ∈ upperCodes, (Char.ofNat n).toNat = n := by decide +kernel
  exact hall n h

/-! ## Characters -/

theorem upperChar_of_not_mem {c : Char} (h : c.toNat ∉ lowerCodes) : upperChar c = [c] := by
  rw [lowerCodes, List.mem_append, not_or] at h
  have hexpansion : upperExpansions.lookup c.toNat = none := by
    rw [List.lookup_eq_none_iff]
    exact fun p hp => bne_iff_ne.mpr fun heq => h.1 (List.mem_map.mpr ⟨p, hp, heq.symm⟩)
  have hrow : mapped? upperRows c.toNat = none := by
    rw [mapped?, Option.map_eq_none_iff, List.find?_eq_none]
    exact fun row hrow hcovers => h.2 (List.mem_flatMap.mpr ⟨row, hrow, row.mem_codes hcovers⟩)
  simp [upperChar, hexpansion, hrow]

/-- A character is its own upper case, or its upper case is made of code points in the tables. -/
theorem upperChar_eq_or_mem (c : Char) :
    upperChar c = [c] ∨ ∀ d ∈ upperChar c, d.toNat ∈ upperCodes := by
  unfold upperChar
  split
  case h_1 expansion hlookup =>
    refine .inr fun d hd => ?_
    obtain ⟨n, hn, rfl⟩ := List.mem_map.mp hd
    obtain ⟨before, after, htable, -⟩ := List.lookup_eq_some_iff.mp hlookup
    have hcode : n ∈ upperCodes := by
      refine List.mem_append_left _ (List.mem_flatMap.mpr ⟨(c.toNat, expansion), ?_, hn⟩)
      simp [htable]
    rwa [toNat_ofNat_of_mem hcode]
  case h_2 =>
    cases hmapped : mapped? upperRows c.toNat with
    | none => exact .inl (by simp)
    | some n =>
      obtain ⟨row, hfound, rfl⟩ := Option.map_eq_some_iff.mp hmapped
      have hcode : ((c.toNat : Int) + row.shift).toNat ∈ upperCodes := by
        refine List.mem_append_right _ (List.mem_flatMap.mpr ⟨row, List.mem_of_find?_eq_some hfound, ?_⟩)
        exact List.mem_map.mpr ⟨c.toNat, row.mem_codes (by simpa using List.find?_some hfound), rfl⟩
      refine .inr fun d hd => ?_
      obtain rfl := List.mem_singleton.mp hd
      rwa [Option.getD_some, toNat_ofNat_of_mem hcode]

/-- What a character is mapped to is not mapped any further. -/
theorem flatMap_upperChar (c : Char) : (upperChar c).flatMap upperChar = upperChar c := by
  rcases upperChar_eq_or_mem c with hself | hcodes
  · rw [hself, List.flatMap_singleton, hself]
  · have hfinal : ∀ d ∈ upperChar c, upperChar d = [d] := fun d hd =>
      upperChar_of_not_mem (not_mem_of_bitsOf_and bitsOf_upperCodes_and (hcodes d hd))
    rw [List.flatMap_congr hfinal, List.flatMap_singleton']

theorem upperChar_ne_nil (c : Char) : upperChar c ≠ [] := by
  unfold upperChar
  split
  case h_1 expansion hlookup =>
    have htable : ∀ p ∈ upperExpansions, p.2 ≠ [] := by decide
    obtain ⟨before, after, heq, -⟩ := List.lookup_eq_some_iff.mp hlookup
    simpa using htable (c.toNat, expansion) (by simp [heq])
  case h_2 => simp

/-! ## Texts -/

/-- A text in upper case is its own upper case. -/
@[simp]
theorem upper_upper (s : String) : upper (upper s) = upper s := by
  rw [upper, upper, String.toList_ofList, List.flatMap_assoc]
  simp only [flatMap_upperChar]

/-- A text that is not empty is not empty in upper case. -/
theorem one_le_length_upper {s : String} (h : 1 ≤ s.length) : 1 ≤ (upper s).length := by
  obtain ⟨c, rest, hs⟩ : ∃ c rest, s.toList = c :: rest := by
    refine List.exists_cons_of_length_pos ?_
    rwa [String.length_toList]
  have hfirst := List.length_pos_iff.mpr (upperChar_ne_nil c)
  rw [upper, String.length_ofList, hs, List.flatMap_cons, List.length_append]
  omega

end SchemaRegistry.Text
