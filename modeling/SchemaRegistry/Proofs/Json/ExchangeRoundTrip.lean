import SchemaRegistry.Json.Exchange
import SchemaRegistry.Proofs.Json.RoundTrip
import SchemaRegistry.Proofs.Text.Utf8

/-!
# Reading back exchanged JSON

The compact text of a plain value, taken as bytes, is read back as that value by the reader of exchanged JSON.
The proof goes as that for stored text does: one character of a string literal, a whole literal, and then
values, items and fields by induction on the fuel. A character beyond ASCII is kept as it is, and none of its
bytes means anything to the reader. An escape by number names a control character, never half of a pair.
-/

namespace SchemaRegistry.Json.Exchange

open Text.Utf8 (encode)

/-- The bytes of characters. -/
def bytes (cs : List Char) : Bytes := cs.flatMap encode

@[simp]
theorem bytes_nil : bytes [] = [] := rfl

@[simp]
theorem bytes_append (cs ds : List Char) : bytes (cs ++ ds) = bytes cs ++ bytes ds := List.flatMap_append

theorem bytes_cons (c : Char) (cs : List Char) : bytes (c :: cs) = encode c ++ bytes cs := List.flatMap_cons

@[simp]
theorem bytes_cons_ascii {c : Char} {cs : List Char} (h : c.toNat < 0x80) :
    bytes (c :: cs) = c.toNat :: bytes cs := by
  rw [bytes_cons, Text.Utf8.encode_of_ascii h, List.singleton_append]

/-! ## One character of a literal -/

section Character

variable {reversed rest : Bytes} {offset : Nat}

/-- Bytes that mean nothing to the reader are kept. -/
theorem readString_ordinary {bs : Bytes} (h : ∀ b ∈ bs, 0x20 ≤ b ∧ b ≠ 0x22 ∧ b ≠ 0x5C) :
    readString .none reversed offset (bs ++ rest) =
      readString .none (bs.reverse ++ reversed) (offset + bs.length) rest := by
  induction bs generalizing reversed offset with
  | nil => rfl
  | cons b bs ih =>
    obtain ⟨⟨hcontrol, hquote, hbackslash⟩, hbs⟩ := List.forall_mem_cons.mp h
    have hprintable : ¬ b < 0x20 := by omega
    simp [readString, isByte, hquote, hbackslash, hprintable, ih hbs, Nat.add_assoc, Nat.add_comm 1]

/-- A backslash and a letter name a character. -/
theorem readString_simpleEscape {letter image : Char} (hascii : letter.toNat < 0x80) (hu : letter ≠ 'u')
    (hletter : simpleEscape? letter = some image) :
    readString .none reversed offset (bytes ['\\', letter] ++ rest) =
      readString .none (image.toNat :: reversed) (offset + 2) rest := by
  have hbytes : bytes ['\\', letter] = ['\\'.toNat, letter.toNat] := by simp [hascii]
  have hbackslash : isByte '\\'.toNat '"' = false ∧ isByte '\\'.toNat '\\' = true := by decide
  have hnumber : isByte letter.toNat 'u' = false := by
    rw [isByte, beq_eq_false_iff_ne]
    exact fun h => hu (Char.toNat_inj.mp h)
  simp only [hbytes, List.cons_append, List.nil_append, readString, hbackslash, hnumber, Char.ofNat_toNat,
    hletter]
  rfl

theorem digitChar_lt {n : Nat} (h : n < 16) : (Nat.digitChar n).toNat < 0x80 := by
  interval_cases n <;> decide

/-- A number that is no half of a pair names a character. -/
theorem readString_unicodeEscape {n : Nat} (hn : n < 0xD800) :
    readString .none reversed offset (bytes (unicodeEscape n) ++ rest) =
      readString .none ((encode (Char.ofNat n)).reverse ++ reversed) (offset + 6) rest := by
  have hascii (m : Nat) : (Nat.digitChar (m % 16)).toNat < 0x80 := digitChar_lt (Nat.mod_lt _ (by omega))
  have hdigit (m : Nat) : hexValue? (Nat.digitChar (m % 16)) = some (m % 16) :=
    hexValue?_digitChar (Nat.mod_lt _ (by omega))
  have hvalue : ((n / 16 / 16 / 16 % 16 * 16 + n / 16 / 16 % 16) * 16 + n / 16 % 16) * 16 + n % 16
      = n := by omega
  have hhigh : isHighSurrogate n = false := by simp [isHighSurrogate]; omega
  have hlow : isLowSurrogate n = false := by simp [isLowSurrogate]; omega
  simp [unicodeEscape, hexDigits_four, hascii, readString, isByte, Char.ofNat_toNat, hdigit, hvalue, hhigh,
    hlow]

/-- The escape of a number has six bytes. -/
theorem length_unicodeEscape {n : Nat} : (bytes (unicodeEscape n)).length = 6 := by
  have hascii (m : Nat) : (Nat.digitChar (m % 16)).toNat < 0x80 := digitChar_lt (Nat.mod_lt _ (by omega))
  simp [unicodeEscape, hexDigits_four, hascii]

/-- The bytes of a character that is kept mean nothing to the reader. -/
theorem ordinary_of_mem_encode {c : Char} (hquote : c ≠ '"') (hbackslash : c ≠ '\\')
    (hkeeps : 0x20 ≤ c.toNat) : ∀ b ∈ encode c, 0x20 ≤ b ∧ b ≠ 0x22 ∧ b ≠ 0x5C := by
  intro b hb
  by_cases hascii : c.toNat < 0x80
  · rw [Text.Utf8.encode_of_ascii hascii, List.mem_singleton] at hb
    subst hb
    exact ⟨hkeeps, fun h => hquote (Char.toNat_inj.mp h), fun h => hbackslash (Char.toNat_inj.mp h)⟩
  · have hlarge := Text.Utf8.le_of_mem_encode (by omega) b hb
    omega

/-- The reader takes the bytes of a character from its escape. -/
theorem readString_escapeChar (c : Char) :
    readString .none reversed offset (bytes (escapeChar compactStyle c) ++ rest) =
      readString .none ((encode c).reverse ++ reversed)
        (offset + (bytes (escapeChar compactStyle c)).length) rest := by
  unfold escapeChar
  split_ifs with hquote hbackslash hnewline hreturn htab hbackspace hfeed hkeeps
  · subst hquote; exact readString_simpleEscape (by decide) (by decide) rfl
  · subst hbackslash; exact readString_simpleEscape (by decide) (by decide) rfl
  · subst hnewline; exact readString_simpleEscape (by decide) (by decide) rfl
  · subst hreturn; exact readString_simpleEscape (by decide) (by decide) rfl
  · subst htab; exact readString_simpleEscape (by decide) (by decide) rfl
  · subst hbackspace; exact readString_simpleEscape (by decide) (by decide) rfl
  · subst hfeed; exact readString_simpleEscape (by decide) (by decide) rfl
  -- What has no letter of its own is kept, unless it is a control character.
  · have hprintable : 0x20 ≤ c.toNat := by simpa [compactStyle] using hkeeps
    rw [bytes_cons, bytes_nil, List.append_nil]
    exact readString_ordinary (ordinary_of_mem_encode hquote hbackslash hprintable)
  · have hcontrol : c.toNat < 0x20 := by simpa [compactStyle] using hkeeps
    have hbasic : c.toNat < 0x10000 := by omega
    have hlength : (bytes (unicodeEscape c.toNat)).length = 6 := length_unicodeEscape
    rw [numericEscape, if_pos hbasic, hlength, readString_unicodeEscape (by omega), Char.ofNat_toNat]

end Character

/-! ## A whole literal -/

/-- What stands in a literal for a text. -/
def literal (text : String) : List Char := text.toList.flatMap (escapeChar compactStyle)

theorem bytes_writeString (text : String) :
    bytes (writeString compactStyle text) = 0x22 :: (bytes (literal text) ++ [0x22]) := by
  simp [writeString, literal]

/-- The reader takes characters from their escapes up to the closing quote. -/
theorem readString_flatMap_escapeChar (cs : List Char) (reversed : Bytes) (offset : Nat) (rest : Bytes) :
    readString .none reversed offset (bytes (cs.flatMap (escapeChar compactStyle)) ++ 0x22 :: rest) =
      .ok (String.ofList (Text.Utf8.decode (reversed.reverse ++ bytes cs)),
        offset + (bytes (cs.flatMap (escapeChar compactStyle))).length + 1, rest) := by
  induction cs generalizing reversed offset with
  | nil => simp [readString, isByte]
  | cons c cs ih =>
    rw [List.flatMap_cons, bytes_append, List.append_assoc, readString_escapeChar, ih, bytes_cons]
    simp [Nat.add_assoc]

/-- Behind its opening quote a literal is read back as its text. -/
theorem readString_literal (text : String) (offset : Nat) (rest : Bytes) :
    readString .none [] offset (bytes (literal text) ++ 0x22 :: rest) =
      .ok (text, offset + (bytes (literal text)).length + 1, rest) := by
  have hread := readString_flatMap_escapeChar text.toList [] offset rest
  have hdecode : Text.Utf8.decode (bytes text.toList) = text.toList := Text.Utf8.decode_flatMap_encode _
  rwa [List.reverse_nil, List.nil_append, hdecode, String.ofList_toList] at hread

/-! ## Blanks -/

/-- Nothing is skipped before a byte beyond the space. -/
theorem skipBlanks_cons {b offset : Nat} {rest : Bytes} (h : 0x20 < b) :
    skipBlanks offset (b :: rest) = (offset, b :: rest) := by
  have hblank : ¬ (b == 0x20 || b == 0x0A || b == 0x0D || b == 0x09) = true := by
    simp only [Bool.or_eq_true, beq_iff_eq]
    omega
  rw [skipBlanks, if_neg hblank]

/-- The text of a plain value begins neither with a blank nor with what closes an array. -/
theorem bytes_write_eq_cons {depth : Nat} {v : Json} (h : plainWithin depth v) :
    ∃ b bs, bytes (write compactStyle v) = b :: bs ∧ 0x20 < b ∧ b ≠ 0x5D := by
  match v with
  | .null => exact ⟨0x6E, _, rfl, by decide, by decide⟩
  | .bool true => exact ⟨0x74, _, rfl, by decide, by decide⟩
  | .bool false => exact ⟨0x66, _, rfl, by decide, by decide⟩
  | .str text => exact ⟨0x22, _, bytes_writeString text, by decide, by decide⟩
  | .arr _ => exact ⟨0x5B, _, rfl, by decide, by decide⟩
  | .obj _ => exact ⟨0x7B, _, rfl, by decide, by decide⟩
  | .int _ | .float _ | .illFormed _ => simp [plainWithin] at h

/-- So does the text of some plain items. -/
theorem bytes_writeItems_eq_cons {depth : Nat} {item : Json} {items : List Json}
    (h : plainItems depth (item :: items)) :
    ∃ b bs, bytes (writeItems compactStyle (item :: items)) = b :: bs ∧ 0x20 < b ∧ b ≠ 0x5D := by
  rw [plainItems, Bool.and_eq_true] at h
  obtain ⟨b, bs, hb, hblank, hclose⟩ := bytes_write_eq_cons h.1
  cases items with
  | nil => exact ⟨b, bs, hb, hblank, hclose⟩
  | cons next items =>
    refine ⟨b, bs ++ bytes (compactStyle.separator ++ writeItems compactStyle (next :: items)), ?_, hblank,
      hclose⟩
    rw [writeItems, List.append_assoc, bytes_append, hb, List.cons_append]

/-! ## Fields -/

/-- The text of fields behind the first name and its colon. -/
def writeRest (value : Json) : List (String × Json) → List Char
  | [] => write compactStyle value
  | next :: fields => write compactStyle value ++ ',' :: writeFields compactStyle (next :: fields)

/-- A name and its colon stand before the rest of the fields. -/
theorem bytes_writeFields (name : String) (value : Json) (fields : List (String × Json)) :
    bytes (writeFields compactStyle ((name, value) :: fields)) =
      0x22 :: (bytes (literal name) ++ 0x22 :: 0x3A :: bytes (writeRest value fields)) := by
  have hseparator : compactStyle.separator = [','] := rfl
  have hcolon : compactStyle.colon = [':'] := rfl
  cases fields <;> simp [writeFields, writeRest, bytes_writeString, hseparator, hcolon]

/-- The rest of the fields begins with a value. -/
theorem bytes_writeRest_eq_cons {depth : Nat} {value : Json} (fields : List (String × Json))
    (h : plainWithin depth value) :
    ∃ b bs, bytes (writeRest value fields) = b :: bs ∧ 0x20 < b := by
  obtain ⟨b, bs, hb, hblank, -⟩ := bytes_write_eq_cons h
  cases fields with
  | nil => exact ⟨b, bs, hb, hblank⟩
  | cons next fields =>
    refine ⟨b, bs ++ bytes (',' :: writeFields compactStyle (next :: fields)), ?_, hblank⟩
    rw [writeRest, bytes_append, hb, List.cons_append]

/-- A name is read back together with the colon behind it. -/
theorem readName_literal (name : String) (offset : Nat) {b : Nat} (rest : Bytes) (hb : 0x20 < b) :
    readName offset (bytes (literal name) ++ 0x22 :: 0x3A :: b :: rest) =
      .ok (name, offset + (bytes (literal name)).length + 2, b :: rest) := by
  have hcolon (offset : Nat) : skipBlanks offset (0x3A :: b :: rest) = (offset, 0x3A :: b :: rest) :=
    skipBlanks_cons (by decide)
  have hvalue (offset : Nat) : skipBlanks offset (b :: rest) = (offset, b :: rest) := skipBlanks_cons hb
  simp only [readName, readString_literal, bind, Except.bind, hcolon, hvalue]
  rfl

/-! ## Values, items and fields

`ReadsBack fuel` is what `Json.ReadsBack` is for stored text. The name of a field is read before the call
that reads its value, so the fields are read back from behind the first name.
-/

/-- So much fuel is enough to read back texts of no more bytes than it. -/
structure ReadsBack (fuel : Nat) : Prop where
  value (depth offset : Nat) (rest : Bytes) {nested : Nat} {v : Json} (hplain : plainWithin nested v)
    (hdepth : depth + nested ≤ maxDepth) (hfuel : (bytes (write compactStyle v)).length ≤ fuel) :
    readValue fuel depth offset (bytes (write compactStyle v) ++ rest) =
      .ok (v, offset + (bytes (write compactStyle v)).length, rest)
  items (depth offset : Nat) (rest : Bytes) {nested : Nat} {item : Json} {items : List Json}
    (hplain : plainItems nested (item :: items)) (hdepth : depth + nested ≤ maxDepth)
    (hfuel : (bytes (writeItems compactStyle (item :: items))).length < fuel) :
    readItems fuel depth offset (bytes (writeItems compactStyle (item :: items)) ++ 0x5D :: rest) =
      .ok (item :: items, offset + (bytes (writeItems compactStyle (item :: items))).length + 1, rest)
  fields (depth offset : Nat) (rest : Bytes) {nested : Nat} {name : String} {value : Json}
    {fields : List (String × Json)} (hplain : plainFields nested ((name, value) :: fields))
    (hdepth : depth + nested ≤ maxDepth) (hfuel : (bytes (writeRest value fields)).length < fuel) :
    readFields fuel depth name offset (bytes (writeRest value fields) ++ 0x7D :: rest) =
      .ok ((name, value) :: fields, offset + (bytes (writeRest value fields)).length + 1, rest)

section Step

variable {fuel nested : Nat} (depth offset : Nat) (rest : Bytes)

/-- What begins neither a string nor an array nor an object is read as a word or a number. -/
theorem readValue_eq_readAtom {b : Nat} {bs : Bytes} (hstring : isByte b '"' = false)
    (harray : isByte b '[' = false) (hobject : isByte b '\x7b' = false) :
    readValue (fuel + 1) depth offset (b :: bs) = readAtom offset (b :: bs) := by
  simp [readValue, hstring, harray, hobject]

/-- A string literal that stands for a value is read back. -/
theorem readValue_writeString (text : String) :
    readValue (fuel + 1) depth offset (bytes (writeString compactStyle text) ++ rest) =
      .ok (.str text, offset + (bytes (writeString compactStyle text)).length, rest) := by
  have hread := readString_literal text (offset + 1) rest
  rw [bytes_writeString]
  simp [readValue, isByte, hread]
  omega

/-- One more call reads back an array. -/
theorem ReadsBack.array (ih : ReadsBack fuel) {items : List Json} (hplain : plainWithin nested (.arr items))
    (hdepth : depth + nested ≤ maxDepth)
    (hfuel : (bytes (write compactStyle (.arr items))).length ≤ fuel + 1) :
    readValue (fuel + 1) depth offset (bytes (write compactStyle (.arr items)) ++ rest) =
      .ok (.arr items, offset + (bytes (write compactStyle (.arr items))).length, rest) := by
  cases nested with
  | zero => simp [plainWithin] at hplain
  | succ nested =>
    rw [plainWithin] at hplain
    have hroom : ¬ maxDepth ≤ depth := by omega
    have hwrite : bytes (write compactStyle (.arr items)) =
        0x5B :: (bytes (writeItems compactStyle items) ++ [0x5D]) := by
      simp [write]
    rw [hwrite] at hfuel ⊢
    cases items with
    | nil => simp [writeItems, readValue, isByte, skipBlanks_cons (b := 0x5D) (by decide)]
    | cons item items =>
      obtain ⟨b, bs, hb, hblank, hclose⟩ := bytes_writeItems_eq_cons hplain
      simp only [List.length_cons, List.length_append, List.length_nil] at hfuel
      have hitems := ih.items (depth + 1) (offset + 1) rest hplain (by omega) (by omega)
      rw [hb, List.cons_append] at hitems
      -- The first byte belongs to an item, so the array does not end here.
      have hskip : skipBlanks (offset + 1) (b :: (bs ++ 0x5D :: rest)) =
          (offset + 1, b :: (bs ++ 0x5D :: rest)) := skipBlanks_cons hblank
      simp only [hb, List.cons_append, List.append_assoc, List.nil_append]
      simp [readValue, isByte, hskip, hclose, hroom, hitems]
      omega

/-- One more call reads back an object. -/
theorem ReadsBack.object (ih : ReadsBack fuel) {fields : List (String × Json)}
    (hplain : plainWithin nested (.obj fields)) (hdepth : depth + nested ≤ maxDepth)
    (hfuel : (bytes (write compactStyle (.obj fields))).length ≤ fuel + 1) :
    readValue (fuel + 1) depth offset (bytes (write compactStyle (.obj fields)) ++ rest) =
      .ok (.obj fields, offset + (bytes (write compactStyle (.obj fields))).length, rest) := by
  cases nested with
  | zero => simp [plainWithin] at hplain
  | succ nested =>
    rw [plainWithin] at hplain
    have hroom : ¬ maxDepth ≤ depth := by omega
    have hwrite : bytes (write compactStyle (.obj fields)) =
        0x7B :: (bytes (writeFields compactStyle fields) ++ [0x7D]) := by
      simp [write]
    rw [hwrite] at hfuel ⊢
    match fields with
    | [] => simp [writeFields, readValue, isByte, skipBlanks_cons (b := 0x7D) (by decide)]
    | (name, value) :: fields =>
      have hvalue := hplain
      rw [plainFields, Bool.and_eq_true] at hvalue
      obtain ⟨b, bs, hb, hblank⟩ := bytes_writeRest_eq_cons fields hvalue.1
      rw [bytes_writeFields] at hfuel ⊢
      simp only [List.length_cons, List.length_append, List.length_nil] at hfuel
      have hfields := ih.fields (depth + 1) (offset + 2 + (bytes (literal name)).length + 2) rest hplain
        (by omega) (by omega)
      -- The first name is read before the call that reads the rest.
      have hname := readName_literal name (offset + 2) (bs ++ 0x7D :: rest) hblank
      rw [hb, List.cons_append] at hfields
      have hskip (more : Bytes) : skipBlanks (offset + 1) (0x22 :: more) = (offset + 1, 0x22 :: more) :=
        skipBlanks_cons (by decide)
      simp only [hb, List.cons_append, List.append_assoc, List.nil_append]
      simp [readValue, isByte, hskip, hname, hroom, hfields]
      omega

/-- One more call reads back a value. -/
theorem ReadsBack.value_succ (ih : ReadsBack fuel) {v : Json} (hplain : plainWithin nested v)
    (hdepth : depth + nested ≤ maxDepth) (hfuel : (bytes (write compactStyle v)).length ≤ fuel + 1) :
    readValue (fuel + 1) depth offset (bytes (write compactStyle v) ++ rest) =
      .ok (v, offset + (bytes (write compactStyle v)).length, rest) := by
  match v with
  | .null => exact (readValue_eq_readAtom depth offset (by decide) (by decide) (by decide)).trans rfl
  | .bool true => exact (readValue_eq_readAtom depth offset (by decide) (by decide) (by decide)).trans rfl
  | .bool false => exact (readValue_eq_readAtom depth offset (by decide) (by decide) (by decide)).trans rfl
  | .str text => exact readValue_writeString depth offset rest text
  | .arr _ => exact ih.array depth offset rest hplain hdepth hfuel
  | .obj _ => exact ih.object depth offset rest hplain hdepth hfuel
  | .int _ | .float _ | .illFormed _ => simp [plainWithin] at hplain

/-- One more call reads back the items of an array. -/
theorem ReadsBack.items_succ (ih : ReadsBack fuel) {item : Json} {items : List Json}
    (hplain : plainItems nested (item :: items)) (hdepth : depth + nested ≤ maxDepth)
    (hfuel : (bytes (writeItems compactStyle (item :: items))).length < fuel + 1) :
    readItems (fuel + 1) depth offset (bytes (writeItems compactStyle (item :: items)) ++ 0x5D :: rest) =
      .ok (item :: items, offset + (bytes (writeItems compactStyle (item :: items))).length + 1, rest) := by
  have hsplit := hplain
  rw [plainItems, Bool.and_eq_true] at hsplit
  obtain ⟨hitem, hitems⟩ := hsplit
  cases items with
  | nil =>
    rw [writeItems] at hfuel ⊢
    rw [readItems, ih.value _ _ _ hitem hdepth (by omega)]
    simp [isByte, skipBlanks_cons (b := 0x5D) (by decide)]
  | cons next items =>
    have hwrite : bytes (writeItems compactStyle (item :: next :: items)) =
        bytes (write compactStyle item) ++ 0x2C :: bytes (writeItems compactStyle (next :: items)) := by
      simp [writeItems, show compactStyle.separator = [','] from rfl]
    rw [hwrite] at hfuel ⊢
    obtain ⟨b, bs, hb, hblank, hclose⟩ := bytes_writeItems_eq_cons hitems
    simp only [List.length_append, List.length_cons] at hfuel
    have hnext := fun offset => ih.items depth offset rest hitems hdepth (by omega)
    have hcomma (offset : Nat) (more : Bytes) : skipBlanks offset (0x2C :: more) = (offset, 0x2C :: more) :=
      skipBlanks_cons (by decide)
    have hskip (offset : Nat) (more : Bytes) : skipBlanks offset (b :: more) = (offset, b :: more) :=
      skipBlanks_cons hblank
    rw [List.append_assoc, readItems, ih.value _ _ _ hitem hdepth (by omega)]
    rw [hb] at hnext ⊢
    rw [List.cons_append] at hnext
    simp [isByte, hcomma, hskip, hclose, hnext]
    omega

/-- One more call reads back the rest of the fields of an object. -/
theorem ReadsBack.fields_succ (ih : ReadsBack fuel) {name : String} {value : Json}
    {fields : List (String × Json)} (hplain : plainFields nested ((name, value) :: fields))
    (hdepth : depth + nested ≤ maxDepth) (hfuel : (bytes (writeRest value fields)).length < fuel + 1) :
    readFields (fuel + 1) depth name offset (bytes (writeRest value fields) ++ 0x7D :: rest) =
      .ok ((name, value) :: fields, offset + (bytes (writeRest value fields)).length + 1, rest) := by
  have hsplit := hplain
  rw [plainFields, Bool.and_eq_true] at hsplit
  obtain ⟨hvalue, hfields⟩ := hsplit
  match fields with
  | [] =>
    rw [writeRest] at hfuel ⊢
    rw [readFields, ih.value _ _ _ hvalue hdepth (by omega)]
    simp [isByte, skipBlanks_cons (b := 0x7D) (by decide)]
  | (next, other) :: fields =>
    have hwrite : bytes (writeRest value ((next, other) :: fields)) =
        bytes (write compactStyle value) ++
          0x2C :: 0x22 :: (bytes (literal next) ++ 0x22 :: 0x3A :: bytes (writeRest other fields)) := by
      simp [writeRest, bytes_writeFields]
    rw [hwrite] at hfuel ⊢
    simp only [List.length_append, List.length_cons] at hfuel
    have hother := hfields
    rw [plainFields, Bool.and_eq_true] at hother
    obtain ⟨b, bs, hb, hblank⟩ := bytes_writeRest_eq_cons fields hother.1
    have hnext := fun offset => ih.fields depth offset rest hfields hdepth (by omega)
    have hname := fun offset => readName_literal next offset (bs ++ 0x7D :: rest) hblank
    have hcomma (offset : Nat) (more : Bytes) : skipBlanks offset (0x2C :: more) = (offset, 0x2C :: more) :=
      skipBlanks_cons (by decide)
    have hquote (offset : Nat) (more : Bytes) : skipBlanks offset (0x22 :: more) = (offset, 0x22 :: more) :=
      skipBlanks_cons (by decide)
    rw [List.append_assoc, readFields, ih.value _ _ _ hvalue hdepth (by omega)]
    rw [hb] at hnext ⊢
    rw [List.cons_append] at hnext
    simp [isByte, hcomma, hquote, hname, hnext]
    omega

end Step

/-- Any amount of fuel reads back what has no more bytes than it. -/
theorem readsBack (fuel : Nat) : ReadsBack fuel := by
  induction fuel with
  | zero =>
    refine ⟨fun _ _ _ _ v hplain _ hfuel => ?_, fun _ _ _ _ _ _ _ _ hfuel => absurd hfuel (by omega),
      fun _ _ _ _ _ _ _ _ _ hfuel => absurd hfuel (by omega)⟩
    obtain ⟨b, bs, hb, -⟩ := bytes_write_eq_cons hplain
    simp [hb] at hfuel
  | succ fuel ih =>
    constructor
    case value =>
      intro depth offset rest nested v
      exact ih.value_succ depth offset rest
    case items =>
      intro depth offset rest nested item items
      exact ih.items_succ depth offset rest
    case fields =>
      intro depth offset rest nested name value fields
      exact ih.fields_succ depth offset rest

/-- **What is exchanged is read back.** The compact text of a plain value that is not nested too deep is read
as that value. -/
theorem read_compact {v : Json} (hplain : plainWithin maxDepth v) : read v.compact = .ok v := by
  obtain ⟨b, bs, hb, hblank, -⟩ := bytes_write_eq_cons hplain
  have hread := (readsBack (2 * (bytes (write compactStyle v)).length + 2)).value 0 0 [] hplain (by omega)
    (by omega)
  have hskip : skipBlanks 0 (bytes (write compactStyle v)) = (0, bytes (write compactStyle v)) := by
    rw [hb, skipBlanks_cons hblank]
  have hbytes : readBytes (bytes (write compactStyle v)) = .ok v := by
    rw [List.append_nil] at hread
    simp only [readBytes, hskip, hread, skipBlanks]
  simp only [read, compact, String.toList_ofList]
  rw [← bytes, hbytes]

end SchemaRegistry.Json.Exchange
