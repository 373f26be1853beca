import Mathlib.Tactic.SplitIfs
import SchemaRegistry.Text.Utf8

/-!
# UTF-8 is read back

The bytes of a character are read back as that character, whatever follows them, and so are the bytes of many.
A character has one to four bytes. The first says how many follow and bounds the next one; no character falls
outside these bounds, since none is half of a surrogate pair and none is beyond U+10FFFF.
-/

namespace SchemaRegistry.Text.Utf8

theorem encode_of_ascii {c : Char} (h : c.toNat < 0x80) : encode c = [c.toNat] := by simp [encode, h]

/-- What a character is made of are bytes. -/
theorem lt_of_mem_encode (c : Char) : ∀ b ∈ encode c, b < 256 := by
  have hvalid : c.toNat < 0xD800 ∨ (0xDFFF < c.toNat ∧ c.toNat < 0x110000) := c.valid
  simp only [encode]
  split_ifs <;> simp <;> omega

/-- The bytes of a character beyond ASCII are themselves beyond ASCII. -/
theorem le_of_mem_encode {c : Char} (h : 0x80 ≤ c.toNat) : ∀ b ∈ encode c, 0x80 ≤ b := by
  have hlarge : ¬ c.toNat < 0x80 := by omega
  simp only [encode, if_neg hlarge]
  split_ifs <;> simp <;> omega

/-- Every character has a byte of its own. -/
theorem length_le_size (cs : List Char) : cs.length ≤ size cs := by
  induction cs with
  | nil => exact Nat.le_refl 0
  | cons c cs ih =>
    have hbyte : 1 ≤ (encode c).length := by
      unfold encode
      dsimp only
      split_ifs <;> simp
    rw [size] at ih ⊢
    rw [List.flatMap_cons, List.length_append, List.length_cons]
    omega

/-! ## First bytes -/

section Lead

variable {n : Nat}

theorem lead?_two (hlow : 0x80 ≤ n) (hhigh : n < 0x800) :
    lead? (0xC0 + n / 0x40) = some ⟨n / 0x40, 1, 0x80, 0xBF⟩ := by
  rw [lead?, if_pos (by omega), Nat.add_sub_cancel_left]

/-- The second of three bytes is within the bounds that the first sets. -/
theorem lead?_three (hlow : 0x800 ≤ n) (hhigh : n < 0x10000) (hvalid : n < 0xD800 ∨ 0xDFFF < n) :
    ∃ low high, lead? (0xE0 + n / 0x1000) = some ⟨n / 0x1000, 2, low, high⟩ ∧
      low ≤ 0x80 + n / 0x40 % 0x40 ∧ 0x80 + n / 0x40 % 0x40 ≤ high := by
  obtain hfirst | hfirst | hfirst :
      n / 0x1000 = 0 ∨ n / 0x1000 = 0xD ∨ n / 0x1000 ≠ 0 ∧ n / 0x1000 ≠ 0xD := by omega
  · exact ⟨0xA0, 0xBF, by rw [hfirst]; rfl, by omega, by omega⟩
  · exact ⟨0x80, 0x9F, by rw [hfirst]; rfl, by omega, by omega⟩
  · refine ⟨0x80, 0xBF, ?_, by omega, by omega⟩
    rw [lead?, if_neg (by omega), if_neg (by omega), if_neg (by omega), if_pos (by omega),
      Nat.add_sub_cancel_left]

/-- The second of four bytes is within the bounds that the first sets. -/
theorem lead?_four (hlow : 0x10000 ≤ n) (hhigh : n < 0x110000) :
    ∃ low high, lead? (0xF0 + n / 0x40000) = some ⟨n / 0x40000, 3, low, high⟩ ∧
      low ≤ 0x80 + n / 0x1000 % 0x40 ∧ 0x80 + n / 0x1000 % 0x40 ≤ high := by
  obtain hfirst | hfirst | hfirst :
      n / 0x40000 = 0 ∨ n / 0x40000 = 4 ∨ n / 0x40000 ≠ 0 ∧ n / 0x40000 < 4 := by omega
  · exact ⟨0x90, 0xBF, by rw [hfirst]; rfl, by omega, by omega⟩
  · exact ⟨0x80, 0x8F, by rw [hfirst]; rfl, by omega, by omega⟩
  · refine ⟨0x80, 0xBF, ?_, by omega, by omega⟩
    rw [lead?, if_neg (by omega), if_neg (by omega), if_neg (by omega), if_neg (by omega),
      if_neg (by omega), if_neg (by omega), if_pos (by omega), Nat.add_sub_cancel_left]

end Lead

/-! ## Following bytes -/

variable {rest : List Nat}

/-- A first byte begins a sequence. -/
theorem decodeFrom_lead {b : Nat} {lead : Lead} (hb : 0x80 ≤ b) (h : lead? b = some lead) :
    decodeFrom none (b :: rest) = decodeFrom (some lead) rest := by
  have hlarge : ¬ b < 0x80 := by omega
  simp only [decodeFrom, if_neg hlarge, h]

/-- A byte within the bounds takes the sequence further. -/
theorem decodeFrom_follow {b bits follow low high : Nat} (hlow : low ≤ b) (hhigh : b ≤ high) :
    decodeFrom (some ⟨bits, follow + 2, low, high⟩) (b :: rest) =
      decodeFrom (some ⟨bits * 0x40 + (b - 0x80), follow + 1, 0x80, 0xBF⟩) rest := by
  simp [decodeFrom, hlow, hhigh]

/-- The last byte ends it. -/
theorem decodeFrom_last {b bits low high : Nat} (hlow : low ≤ b) (hhigh : b ≤ high) :
    decodeFrom (some ⟨bits, 1, low, high⟩) (b :: rest) =
      Char.ofNat (bits * 0x40 + (b - 0x80)) :: decodeFrom none rest := by
  simp [decodeFrom, hlow, hhigh]

/-! ## Characters -/

/-- The bytes of a character are read back as it. -/
theorem decodeFrom_encode (c : Char) (rest : List Nat) :
    decodeFrom none (encode c ++ rest) = c :: decodeFrom none rest := by
  have hvalid : c.toNat < 0xD800 ∨ (0xDFFF < c.toNat ∧ c.toNat < 0x110000) := c.valid
  -- The last byte completes the number of the character.
  have hend {m : Nat} (h : m = c.toNat) : Char.ofNat m = c := by rw [h, Char.ofNat_toNat]
  unfold encode
  dsimp only
  split_ifs with hone htwo hthree
  · simp [decodeFrom, hone, Char.ofNat_toNat]
  · simp only [List.cons_append, List.nil_append]
    rw [decodeFrom_lead (by omega) (lead?_two (by omega) htwo), decodeFrom_last (by omega) (by omega),
      hend (by omega)]
  · obtain ⟨low, high, hlead, hlow, hhigh⟩ := lead?_three (n := c.toNat) (by omega) hthree (by omega)
    simp only [List.cons_append, List.nil_append]
    rw [decodeFrom_lead (by omega) hlead, decodeFrom_follow hlow hhigh,
      decodeFrom_last (by omega) (by omega), hend (by omega)]
  · obtain ⟨low, high, hlead, hlow, hhigh⟩ := lead?_four (n := c.toNat) (by omega) (by omega)
    simp only [List.cons_append, List.nil_append]
    rw [decodeFrom_lead (by omega) hlead, decodeFrom_follow hlow hhigh,
      decodeFrom_follow (by omega) (by omega), decodeFrom_last (by omega) (by omega), hend (by omega)]

/-- **The bytes of characters are read back as them.** -/
theorem decode_flatMap_encode (cs : List Char) : decode (cs.flatMap encode) = cs := by
  rw [decode]
  induction cs with
  | nil => rfl
  | cons c cs ih => rw [List.flatMap_cons, decodeFrom_encode, ih]

end SchemaRegistry.Text.Utf8
