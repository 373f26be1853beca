import Mathlib.Tactic.IntervalCases
import SchemaRegistry.Json.Reader
import SchemaRegistry.Json.Writer

/-!
# Reading back a string literal

A string literal is written character by character, so it is enough to read back the escape of one character
with any text behind it. A character beyond U+FFFF is written as two escapes, the first of which leaves the
reader waiting for the second.

The number of an escape is taken only if some text follows it. A literal ends in a quote, so there always is.
-/

namespace SchemaRegistry.Json

/-- What reading back needs of a style: a comma and a colon with blanks behind them, and no control character
is kept as it is. -/
structure Style.Readable (style : Style) : Prop where
  separator : ∃ blanks, style.separator = ',' :: blanks ∧ ∀ c ∈ blanks, isBlank c
  colon : ∃ blanks, style.colon = ':' :: blanks ∧ ∀ c ∈ blanks, isBlank c
  keeps : ∀ c, style.keeps c → 0x20 ≤ c.toNat

theorem readable_spacedStyle : spacedStyle.Readable where
  separator := ⟨[' '], rfl, List.forall_mem_singleton.mpr rfl⟩
  colon := ⟨[' '], rfl, List.forall_mem_singleton.mpr rfl⟩
  keeps := by
    intro c h
    simp only [spacedStyle, Bool.and_eq_true, decide_eq_true_eq] at h
    exact h.1

theorem readable_compactStyle : compactStyle.Readable where
  separator := ⟨[], rfl, by simp⟩
  colon := ⟨[], rfl, by simp⟩
  keeps := by
    intro c h
    simpa [compactStyle] using h

/-! ## Numbers in escapes -/

theorem hexValue?_digitChar {n : Nat} (h : n < 16) : hexValue? (Nat.digitChar n) = some n := by
  interval_cases n <;> rfl

/-- The four digits of an escape. -/
theorem hexDigits_four (n : Nat) :
    Text.hexDigits 4 n =
      [Nat.digitChar (n / 16 / 16 / 16 % 16), Nat.digitChar (n / 16 / 16 % 16),
        Nat.digitChar (n / 16 % 16), Nat.digitChar (n % 16)] := by
  simp [Text.hexDigits]

/-- The first half of a pair that waits for its second. -/
def Pending.high? : Pending → Option Nat
  | .low high => some high
  | _ => .none

/-- An ordinary character or an escape may come next. -/
def Pending.Between (p : Pending) : Prop := p = .none ∨ ∃ high, p = .low high

/-- The reader takes the number of an escape. -/
theorem readString_unicodeEscape {opening offset n : Nat} {s : Contents} {p : Pending}
    {rest : List Char} (hp : p.Between) (hn : n < 0x10000) (hrest : rest ≠ []) :
    readString opening p s offset (unicodeEscape n ++ rest) =
      readString opening (s.takeCode p.high? n).2 (s.takeCode p.high? n).1 (offset + 6) rest := by
  obtain ⟨next, more, rfl⟩ := List.exists_cons_of_ne_nil hrest
  have hdigit (m : Nat) : hexValue? (Nat.digitChar (m % 16)) = some (m % 16) :=
    hexValue?_digitChar (Nat.mod_lt _ (by omega))
  have hvalue : ((n / 16 / 16 / 16 % 16 * 16 + n / 16 / 16 % 16) * 16 + n / 16 % 16) * 16 + n % 16
      = n := by omega
  rcases hp with rfl | ⟨high, rfl⟩ <;>
  · simp only [unicodeEscape, hexDigits_four, List.cons_append, List.nil_append, readString,
      Char.reduceEq, if_true, if_false, hdigit, Pending.high?]
    simp [hvalue]

/-! ## One character -/

/-- No character is half of a pair, and there are no characters beyond U+10FFFF. -/
theorem toNat_valid (c : Char) : c.toNat < 0xD800 ∨ (0xDFFF < c.toNat ∧ c.toNat < 0x110000) :=
  c.valid

/-- The reader takes a character up to U+FFFF from its escape by number. -/
theorem readString_numericEscape_basic {opening offset : Nat} {s : Contents} {rest : List Char}
    {c : Char} (hc : c.toNat < 0x10000) (hrest : rest ≠ []) :
    readString opening .none s offset (unicodeEscape c.toNat ++ rest) =
      readString opening .none (s.push c) (offset + 6) rest := by
  have hvalid := toNat_valid c
  have hhigh : isHighSurrogate c.toNat = false := by simp [isHighSurrogate]; omega
  have hlow : isLowSurrogate c.toNat = false := by simp [isLowSurrogate]; omega
  rw [readString_unicodeEscape (.inl rfl) hc hrest]
  simp [Contents.takeCode, Pending.high?, hhigh, hlow, Char.ofNat_toNat]

/-- The reader puts a character beyond U+FFFF together from its two halves. -/
theorem readString_numericEscape_pair {opening offset : Nat} {s : Contents} {rest : List Char}
    {c : Char} (hc : 0x10000 ≤ c.toNat) (hrest : rest ≠ []) :
    readString opening .none s offset
        (unicodeEscape (0xD800 + (c.toNat - 0x10000) / 0x400) ++
          (unicodeEscape (0xDC00 + (c.toNat - 0x10000) % 0x400) ++ rest)) =
      readString opening .none (s.push c) (offset + 12) rest := by
  have hvalid := toNat_valid c
  set high := 0xD800 + (c.toNat - 0x10000) / 0x400 with hhigh
  set low := 0xDC00 + (c.toNat - 0x10000) % 0x400 with hlow
  have hfirst : isHighSurrogate high = true := by simp [isHighSurrogate]; omega
  have hsecond : isLowSurrogate low = true := by simp [isLowSurrogate]; omega
  have hsum : 0x10000 + (high - 0xD800) * 0x400 + (low - 0xDC00) = c.toNat := by omega
  rw [readString_unicodeEscape (.inl rfl) (by omega) (by simp [unicodeEscape])]
  have hwait : s.takeCode (Pending.high? .none) high = (s, .low high) := by
    simp [Contents.takeCode, Pending.high?, hfirst]
  rw [hwait, readString_unicodeEscape (.inr ⟨high, rfl⟩) (by omega) hrest]
  have hpair : s.takeCode (Pending.high? (.low high)) low = (s.push c, .none) := by
    simp [Contents.takeCode, Pending.high?, hsecond, hsum, Char.ofNat_toNat]
  rw [hpair]

/-- The reader takes a character from its escape. -/
theorem readString_escapeChar {style : Style} (h : style.Readable) {opening offset : Nat}
    {s : Contents} {rest : List Char} (c : Char) (hrest : rest ≠ []) :
    readString opening .none s offset (escapeChar style c ++ rest) =
      readString opening .none (s.push c) (offset + (escapeChar style c).length) rest := by
  have hsimple {letter : Char} (hu : letter ≠ 'u') (hletter : simpleEscape? letter = some c) :
      readString opening .none s offset (['\\', letter] ++ rest) =
        readString opening .none (s.push c) (offset + 2) rest := by
    simp [readString, hu, hletter, Contents.breakAt]
  unfold escapeChar
  split_ifs with hquote hbackslash hnewline hreturn htab hbackspace hfeed hkeeps
  · subst hquote; exact hsimple (by decide) rfl
  · subst hbackslash; exact hsimple (by decide) rfl
  · subst hnewline; exact hsimple (by decide) rfl
  · subst hreturn; exact hsimple (by decide) rfl
  · subst htab; exact hsimple (by decide) rfl
  · subst hbackspace; exact hsimple (by decide) rfl
  · subst hfeed; exact hsimple (by decide) rfl
  · have hprintable : ¬ c.toNat < 0x20 := by
      have := h.keeps c hkeeps
      omega
    simp [readString, hquote, hbackslash, hprintable]
  · unfold numericEscape
    split_ifs with hbasic
    · rw [readString_numericEscape_basic hbasic hrest]
      simp [unicodeEscape, hexDigits_four]
    · rw [List.append_assoc, readString_numericEscape_pair (by omega) hrest]
      simp [unicodeEscape, hexDigits_four]

/-! ## A whole literal -/

/-- The reader takes characters from their escapes up to the closing quote. -/
theorem readString_flatMap_escapeChar {style : Style} (h : style.Readable) (cs : List Char)
    (opening offset : Nat) (s : Contents) (rest : List Char) :
    readString opening .none s offset (cs.flatMap (escapeChar style) ++ '"' :: rest) =
      .ok ({ s with reversed := cs.reverse ++ s.reversed },
        offset + (cs.flatMap (escapeChar style)).length + 1, rest) := by
  induction cs generalizing offset s with
  | nil => simp [readString]
  | cons c cs ih =>
    rw [List.flatMap_cons, List.append_assoc, readString_escapeChar h c (by simp), ih]
    simp [Contents.push, Nat.add_assoc]

/-- Behind its opening quote a literal is read back as the characters of its text. -/
theorem readString_writeString {style : Style} (h : style.Readable) (text : String) (offset : Nat)
    (rest : List Char) :
    readString offset .none {} (offset + 1) ((writeString style text).tail ++ rest) =
      .ok ({ reversed := text.toList.reverse }, offset + (writeString style text).length, rest) := by
  have hbody := readString_flatMap_escapeChar h text.toList offset (offset + 1) {} rest
  simp only [writeString, List.tail_cons, List.cons_append, List.append_assoc, List.nil_append,
    List.length_cons, List.length_append, List.length_nil] at hbody ⊢
  rw [hbody, List.append_nil]
  congr 3
  omega

end SchemaRegistry.Json
