import SchemaRegistry.Text.Ranges

/-!
# White space

Two sets of blank characters and the trimming that goes with each. `isBlank` is the Unicode property
White_Space; `isSpace` adds the four information separators, which settings also ignore.
-/

namespace SchemaRegistry.Text

/-- The characters with the Unicode property White_Space. -/
def blanks : Ranges :=
  [(0x09, 0x0D), (0x20, 0x20), (0x85, 0x85), (0xA0, 0xA0), (0x1680, 0x1680), (0x2000, 0x200A),
   (0x2028, 0x2029), (0x202F, 0x202F), (0x205F, 0x205F), (0x3000, 0x3000)]

/-- `c` has the Unicode property White_Space. -/
def isBlank (c : Char) : Bool := blanks.contains c

/-- White space or one of the information separators U+001C to U+001F. -/
def isSpace (c : Char) : Bool :=
  isBlank c || (0x1C ≤ c.toNat && c.toNat ≤ 0x1F)

/-- Drops the characters that satisfy `p` from both ends. -/
def trimList (p : Char → Bool) (cs : List Char) : List Char :=
  ((cs.dropWhile p).reverse.dropWhile p).reverse

/-- Removes white space from both ends. -/
def trim (s : String) : String := String.ofList (trimList isBlank s.toList)

/-- Removes white space and information separators from both ends. -/
def trimSpace (s : String) : String := String.ofList (trimList isSpace s.toList)

/-! ## Trimming is idempotent -/

theorem dropWhile_eq_self_of_head {p : Char → Bool} {cs : List Char}
    (h : ∀ c ∈ cs.head?, p c = false) : cs.dropWhile p = cs := by
  cases cs with
  | nil => rfl
  | cons c rest => simp [h c (by simp)]

theorem head?_dropWhile_not (p : Char → Bool) (cs : List Char) :
    ∀ c ∈ (cs.dropWhile p).head?, p c = false := by
  intro c hc
  have := List.head?_dropWhile_not p cs
  rw [Option.mem_def] at hc
  simpa [hc] using this

theorem trimList_trimList (p : Char → Bool) (cs : List Char) :
    trimList p (trimList p cs) = trimList p cs := by
  have back : (trimList p cs).reverse.dropWhile p = (trimList p cs).reverse := by
    apply dropWhile_eq_self_of_head
    simpa [trimList] using head?_dropWhile_not p (cs.dropWhile p).reverse
  have front : (trimList p cs).dropWhile p = trimList p cs := by
    apply dropWhile_eq_self_of_head
    intro c hc
    have hsuffix : ((cs.dropWhile p).reverse.dropWhile p) <:+ (cs.dropWhile p).reverse :=
      List.dropWhile_suffix p
    have hprefix : trimList p cs <+: cs.dropWhile p := by
      rw [← List.reverse_suffix]
      simpa [trimList] using hsuffix
    obtain ⟨rest, hrest⟩ := hprefix
    apply head?_dropWhile_not p cs
    rw [← hrest]
    cases htrim : trimList p cs with
    | nil => simp [htrim] at hc
    | cons d ds => simpa [htrim] using hc
  unfold trimList at front back ⊢
  rw [front, back, List.reverse_reverse]

@[simp]
theorem trim_trim (s : String) : trim (trim s) = trim s := by
  simp [trim, trimList_trimList]

end SchemaRegistry.Text
