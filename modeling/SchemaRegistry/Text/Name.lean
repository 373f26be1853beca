import SchemaRegistry.Text.NameTable

/-!
# Names

A name is a letter or an underscore and then letters, digits and underscores, of any script. Variants of
the letters and digits of ASCII, such as the wide and the bold ones, stand for the plain ones, so that names
that only differ in them are the same name.
-/

namespace SchemaRegistry.Text

/-- The character can start a name. -/
def startsName (c : Char) : Bool := nameStarts.contains c

/-- The character can stand in a name. -/
def isInName (c : Char) : Bool := nameStarts.contains c || nameInner.contains c

/-- The text is a name. -/
def isName (s : String) : Bool :=
  match s.toList with
  | [] => false
  | c :: rest => startsName c && rest.all isInName

/-- Runs of variants of ASCII characters: the first, how many there are, and the plain one of the first. -/
def variants : List (Nat × Nat × Nat) := [
  (0x00AA, 1, 0x61), (0x00BA, 1, 0x6F), (0x017F, 1, 0x73), (0x02B0, 1, 0x68), (0x02B2, 1, 0x6A),
  (0x02B3, 1, 0x72), (0x02B7, 1, 0x77), (0x02B8, 1, 0x79), (0x02E1, 1, 0x6C), (0x02E2, 1, 0x73),
  (0x02E3, 1, 0x78), (0x1D2C, 1, 0x41), (0x1D2E, 1, 0x42), (0x1D30, 2, 0x44), (0x1D33, 8, 0x47),
  (0x1D3C, 1, 0x4F), (0x1D3E, 1, 0x50), (0x1D3F, 1, 0x52), (0x1D40, 2, 0x54), (0x1D42, 1, 0x57),
  (0x1D43, 1, 0x61), (0x1D47, 1, 0x62), (0x1D48, 2, 0x64), (0x1D4D, 1, 0x67), (0x1D4F, 1, 0x6B),
  (0x1D50, 1, 0x6D), (0x1D52, 1, 0x6F), (0x1D56, 1, 0x70), (0x1D57, 2, 0x74), (0x1D5B, 1, 0x76),
  (0x1D62, 1, 0x69), (0x1D63, 1, 0x72), (0x1D64, 2, 0x75), (0x1D9C, 1, 0x63), (0x1DA0, 1, 0x66),
  (0x1DBB, 1, 0x7A), (0x2071, 1, 0x69), (0x207F, 1, 0x6E), (0x2090, 1, 0x61), (0x2091, 1, 0x65),
  (0x2092, 1, 0x6F), (0x2093, 1, 0x78), (0x2095, 1, 0x68), (0x2096, 4, 0x6B), (0x209A, 1, 0x70),
  (0x209B, 2, 0x73), (0x2102, 1, 0x43), (0x210A, 1, 0x67), (0x210B, 1, 0x48), (0x210C, 1, 0x48),
  (0x210D, 1, 0x48), (0x210E, 1, 0x68), (0x2110, 1, 0x49), (0x2111, 1, 0x49), (0x2112, 1, 0x4C),
  (0x2113, 1, 0x6C), (0x2115, 1, 0x4E), (0x2119, 3, 0x50), (0x211C, 1, 0x52), (0x211D, 1, 0x52),
  (0x2124, 1, 0x5A), (0x2128, 1, 0x5A), (0x212A, 1, 0x4B), (0x212C, 2, 0x42), (0x212F, 1, 0x65),
  (0x2130, 2, 0x45), (0x2133, 1, 0x4D), (0x2134, 1, 0x6F), (0x2139, 1, 0x69), (0x2145, 1, 0x44),
  (0x2146, 2, 0x64), (0x2148, 2, 0x69), (0x2160, 1, 0x49), (0x2164, 1, 0x56), (0x2169, 1, 0x58),
  (0x216C, 1, 0x4C), (0x216D, 2, 0x43), (0x216F, 1, 0x4D), (0x2170, 1, 0x69), (0x2174, 1, 0x76),
  (0x2179, 1, 0x78), (0x217C, 1, 0x6C), (0x217D, 2, 0x63), (0x217F, 1, 0x6D), (0x2C7C, 1, 0x6A),
  (0x2C7D, 1, 0x56), (0xA7F2, 1, 0x43), (0xA7F3, 1, 0x46), (0xA7F4, 1, 0x51), (0xFE33, 1, 0x5F),
  (0xFE34, 1, 0x5F), (0xFE4D, 1, 0x5F), (0xFE4E, 1, 0x5F), (0xFE4F, 1, 0x5F), (0xFF10, 10, 0x30),
  (0xFF21, 26, 0x41), (0xFF3F, 1, 0x5F), (0xFF41, 26, 0x61), (0x107A5, 1, 0x71), (0x1D400, 26, 0x41),
  (0x1D41A, 26, 0x61), (0x1D434, 26, 0x41), (0x1D44E, 7, 0x61), (0x1D456, 18, 0x69), (0x1D468, 26, 0x41),
  (0x1D482, 26, 0x61), (0x1D49C, 1, 0x41), (0x1D49E, 2, 0x43), (0x1D4A2, 1, 0x47), (0x1D4A5, 2, 0x4A),
  (0x1D4A9, 4, 0x4E), (0x1D4AE, 8, 0x53), (0x1D4B6, 4, 0x61), (0x1D4BB, 1, 0x66), (0x1D4BD, 7, 0x68),
  (0x1D4C5, 11, 0x70), (0x1D4D0, 26, 0x41), (0x1D4EA, 26, 0x61), (0x1D504, 2, 0x41), (0x1D507, 4, 0x44),
  (0x1D50D, 8, 0x4A), (0x1D516, 7, 0x53), (0x1D51E, 26, 0x61), (0x1D538, 2, 0x41), (0x1D53B, 4, 0x44),
  (0x1D540, 5, 0x49), (0x1D546, 1, 0x4F), (0x1D54A, 7, 0x53), (0x1D552, 26, 0x61), (0x1D56C, 26, 0x41),
  (0x1D586, 26, 0x61), (0x1D5A0, 26, 0x41), (0x1D5BA, 26, 0x61), (0x1D5D4, 26, 0x41), (0x1D5EE, 26, 0x61),
  (0x1D608, 26, 0x41), (0x1D622, 26, 0x61), (0x1D63C, 26, 0x41), (0x1D656, 26, 0x61), (0x1D670, 26, 0x41),
  (0x1D68A, 26, 0x61), (0x1D7CE, 10, 0x30), (0x1D7D8, 10, 0x30), (0x1D7E2, 10, 0x30), (0x1D7EC, 10, 0x30),
  (0x1D7F6, 10, 0x30), (0x1FBF0, 10, 0x30)]

/-- Characters that stand for several ASCII ones. -/
def ligatures : List (Nat × String) := [
  (0x0132, "IJ"), (0x0133, "ij"), (0x01C7, "LJ"), (0x01C8, "Lj"), (0x01C9, "lj"), (0x01CA, "NJ"),
  (0x01CB, "Nj"), (0x01CC, "nj"), (0x01F1, "DZ"), (0x01F2, "Dz"), (0x01F3, "dz"), (0x2161, "II"),
  (0x2162, "III"), (0x2163, "IV"), (0x2165, "VI"), (0x2166, "VII"), (0x2167, "VIII"), (0x2168, "IX"),
  (0x216A, "XI"), (0x216B, "XII"), (0x2171, "ii"), (0x2172, "iii"), (0x2173, "iv"), (0x2175, "vi"),
  (0x2176, "vii"), (0x2177, "viii"), (0x2178, "ix"), (0x217A, "xi"), (0x217B, "xii"), (0xFB00, "ff"),
  (0xFB01, "fi"), (0xFB02, "fl"), (0xFB03, "ffi"), (0xFB04, "ffl"), (0xFB05, "st"), (0xFB06, "st")]

/-- What a character of a name stands for. -/
def plainChar (c : Char) : List Char :=
  if c.toNat < 0x80 then [c]
  else
    match variants.find? fun (first, count, _) => first ≤ c.toNat && c.toNat < first + count with
    | some (first, _, plain) => [Char.ofNat (plain + (c.toNat - first))]
    | none =>
      match ligatures.lookup c.toNat with
      | some plain => plain.toList
      | none => [c]

/-- A name without variants of ASCII characters. -/
def plainName (s : String) : String := String.ofList (s.toList.flatMap plainChar)

end SchemaRegistry.Text
