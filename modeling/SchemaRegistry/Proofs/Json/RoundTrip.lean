import SchemaRegistry.Proofs.Json.StringLiteral

/-!
# Reading back JSON text

What the writer makes of a value is read back as that value, whatever follows it. This holds of plain values,
those that are made of texts, flags and `null`, and it needs that arrays and objects are not nested too deep.

The reader spends fuel on each nested call. The proof is by induction on the fuel, and the length of the text
is enough of it: every call leaves at least one character to those who called it.
-/

namespace SchemaRegistry.Json

mutual

/-- The value holds no number and no broken text, and nests at most `depth` arrays and objects. -/
def plainWithin : Nat → Json → Bool
  | _, .null => true
  | _, .bool _ => true
  | _, .str _ => true
  | depth + 1, .arr items => plainItems depth items
  | depth + 1, .obj fields => plainFields depth fields
  | _, _ => false

/-- Every item is plain. -/
def plainItems : Nat → List Json → Bool
  | _, [] => true
  | depth, item :: rest => plainWithin depth item && plainItems depth rest

/-- The value of every field is plain. -/
def plainFields : Nat → List (String × Json) → Bool
  | _, [] => true
  | depth, (_, value) :: rest => plainWithin depth value && plainFields depth rest

end

theorem plainItems_iff {depth : Nat} {items : List Json} :
    plainItems depth items ↔ ∀ item ∈ items, plainWithin depth item := by
  induction items with
  | nil => simp [plainItems]
  | cons item items ih => simp [plainItems, ih]

mutual

/-- No string of a plain value holds halves of characters. -/
theorem isText_of_plainWithin : ∀ {depth : Nat} (v : Json), plainWithin depth v → v.isText
  | _, .null, _ | _, .bool _, _ | _, .str _, _ => rfl
  | _ + 1, .arr items, h => areTexts_of_plainItems items h
  | _ + 1, .obj fields, h => haveTexts_of_plainFields fields h

theorem areTexts_of_plainItems : ∀ {depth : Nat} (items : List Json), plainItems depth items → areTexts items
  | _, [], _ => rfl
  | _, item :: rest, h => by
    rw [plainItems, Bool.and_eq_true] at h
    rw [areTexts, isText_of_plainWithin item h.1, areTexts_of_plainItems rest h.2, Bool.and_self]

theorem haveTexts_of_plainFields : ∀ {depth : Nat} (fields : List (String × Json)),
    plainFields depth fields → haveTexts fields
  | _, [], _ => rfl
  | _, (_, value) :: rest, h => by
    rw [plainFields, Bool.and_eq_true] at h
    rw [haveTexts, isText_of_plainWithin value h.1, haveTexts_of_plainFields rest h.2, Bool.and_self]

end

/-- Blanks are skipped up to a character that is none. -/
theorem skipBlanks_append {blanks rest : List Char} {offset : Nat} {c : Char}
    (hblanks : ∀ b ∈ blanks, isBlank b) (hc : isBlank c = false) :
    skipBlanks offset (blanks ++ c :: rest) = (offset + blanks.length, c :: rest) := by
  induction blanks generalizing offset with
  | nil => simp [skipBlanks, hc]
  | cons b blanks ih =>
    have hb : isBlank b = true := hblanks b (by simp)
    rw [List.cons_append, skipBlanks, if_pos hb, ih fun b hb => hblanks b (by simp [hb])]
    simp [Nat.add_assoc, Nat.add_comm 1]

/-- Nothing is skipped before a character that is no blank. -/
theorem skipBlanks_cons {rest : List Char} {offset : Nat} {c : Char} (hc : isBlank c = false) :
    skipBlanks offset (c :: rest) = (offset, c :: rest) := by
  rw [skipBlanks, if_neg (by simp [hc])]

/-- The text of a plain value begins neither with a blank nor with what closes an array. -/
theorem write_eq_cons (style : Style) {depth : Nat} {v : Json} (h : plainWithin depth v) :
    ∃ c cs, write style v = c :: cs ∧ isBlank c = false ∧ c ≠ ']' := by
  match v with
  | .null => exact ⟨'n', _, rfl, by decide, by decide⟩
  | .bool true => exact ⟨'t', _, rfl, by decide, by decide⟩
  | .bool false => exact ⟨'f', _, rfl, by decide, by decide⟩
  | .str _ => exact ⟨'"', _, rfl, by decide, by decide⟩
  | .arr _ => exact ⟨'[', _, rfl, by decide, by decide⟩
  | .obj _ => exact ⟨'\x7b', _, rfl, by decide, by decide⟩
  | .int _ | .float _ | .illFormed _ => simp [plainWithin] at h

/-- So does the text of some plain items. -/
theorem writeItems_eq_cons (style : Style) {depth : Nat} {item : Json} {items : List Json}
    (h : plainItems depth (item :: items)) :
    ∃ c cs, writeItems style (item :: items) = c :: cs ∧ isBlank c = false ∧ c ≠ ']' := by
  rw [plainItems, Bool.and_eq_true] at h
  obtain ⟨c, cs, hc, hblank, hclose⟩ := write_eq_cons style h.1
  cases items with
  | nil => exact ⟨c, cs, hc, hblank, hclose⟩
  | cons next items =>
    refine ⟨c, cs ++ style.separator ++ writeItems style (next :: items), ?_, hblank, hclose⟩
    rw [writeItems, hc, List.cons_append, List.cons_append]

/-- The text of some fields begins with a quote. -/
theorem writeFields_eq_cons (style : Style) (field : String × Json) (fields : List (String × Json)) :
    ∃ cs, writeFields style (field :: fields) = '"' :: cs := by
  cases fields <;> exact ⟨_, rfl⟩

/-- What begins neither a string nor an array nor an object is read as a word or a number. -/
theorem readValue_eq_readAtom {fuel depth offset : Nat} {c : Char} {cs : List Char}
    (hstring : c ≠ '"') (harray : c ≠ '[') (hobject : c ≠ '\x7b') :
    readValue (fuel + 1) depth offset (c :: cs) = readAtom offset (c :: cs) := by
  rw [readValue, if_neg hstring, if_neg harray, if_neg hobject]

/-- The words for nothing, yes and no are read as what they say. -/
theorem readAtom_null {offset : Nat} {rest : List Char} :
    readAtom offset ("null".toList ++ rest) = .ok (.null, offset + 4, rest) := by
  rfl

theorem readAtom_true {offset : Nat} {rest : List Char} :
    readAtom offset ("true".toList ++ rest) = .ok (.bool true, offset + 4, rest) := by
  rfl

theorem readAtom_false {offset : Nat} {rest : List Char} :
    readAtom offset ("false".toList ++ rest) = .ok (.bool false, offset + 5, rest) := by
  rfl

/-! ## Values, items and fields

`ReadsBack style fuel` collects what is shown by induction on the fuel: with so much of it, every plain value
whose text is no longer is read back, and so are the items of an array and the fields of an object together
with what closes them.
-/

/-- So much fuel is enough to read back texts that are no longer than it. -/
structure ReadsBack (style : Style) (fuel : Nat) : Prop where
  value (depth offset : Nat) (rest : List Char) {nested : Nat} {v : Json} (hplain : plainWithin nested v)
    (hdepth : depth + nested ≤ maxDepth) (hfuel : (write style v).length ≤ fuel) :
    readValue fuel depth offset (write style v ++ rest) =
      .ok (v, offset + (write style v).length, rest)
  items (depth offset : Nat) (rest : List Char) {nested : Nat} {item : Json} {items : List Json}
    (hplain : plainItems nested (item :: items)) (hdepth : depth + nested ≤ maxDepth)
    (hfuel : (writeItems style (item :: items)).length < fuel) :
    readItems fuel depth offset (writeItems style (item :: items) ++ ']' :: rest) =
      .ok (item :: items, offset + (writeItems style (item :: items)).length + 1, rest)
  fields (depth offset : Nat) (rest : List Char) {nested : Nat} {field : String × Json}
    {fields : List (String × Json)} (hplain : plainFields nested (field :: fields))
    (hdepth : depth + nested ≤ maxDepth)
    (hfuel : (writeFields style (field :: fields)).length < fuel) :
    readFields fuel depth offset (writeFields style (field :: fields) ++ '\x7d' :: rest) =
      .ok (field :: fields, offset + (writeFields style (field :: fields)).length + 1, rest)

/-- Contents without halves are those of a text. -/
theorem loose_of_text (text : String) : Contents.loose { reversed := text.toList.reverse } = .ofText text := by
  simp [Contents.loose, LooseText.ofText]

/-- A string literal that stands for a value is read back. -/
theorem readValue_writeString {style : Style} (h : style.Readable) {fuel depth offset : Nat}
    (text : String) {rest : List Char} :
    readValue (fuel + 1) depth offset (writeString style text ++ rest) =
      .ok (.str text, offset + (writeString style text).length, rest) := by
  have hliteral := readString_writeString h text offset rest
  have hcons : writeString style text = '"' :: (writeString style text).tail := rfl
  rw [hcons] at hliteral ⊢
  rw [List.cons_append, readValue, if_pos rfl]
  rw [List.tail_cons] at hliteral
  simp [hliteral, Contents.toJson, loose_of_text]

/-- A string literal that stands for a name is read back. -/
theorem readName_writeString {style : Style} (h : style.Readable) {offset : Nat} (text : String)
    {rest : List Char} :
    readName offset (writeString style text ++ rest) =
      .ok (some text, offset + (writeString style text).length, rest) := by
  have hliteral := readString_writeString h text offset rest
  have hcons : writeString style text = '"' :: (writeString style text).tail := rfl
  rw [hcons] at hliteral ⊢
  rw [List.cons_append, readName]
  rw [List.tail_cons] at hliteral
  simp [hliteral, loose_of_text]

/-- The colon behind a name is read back. -/
theorem readColon_append {style : Style} (h : style.Readable) {offset : Nat} {c : Char}
    {rest : List Char} (hc : isBlank c = false) :
    readColon offset (style.colon ++ c :: rest) = .ok (offset + style.colon.length, c :: rest) := by
  obtain ⟨blanks, hcolon, hblanks⟩ := h.colon
  rw [hcolon, List.cons_append, readColon, skipBlanks_cons (by decide)]
  simp [skipBlanks_append hblanks hc, Nat.add_assoc, Nat.add_comm 1]

section Step

variable {style : Style} {fuel nested : Nat} (depth offset : Nat) (rest : List Char)

/-- One more call reads back an array. -/
theorem ReadsBack.array (ih : ReadsBack style fuel) {items : List Json}
    (hplain : plainWithin nested (.arr items)) (hdepth : depth + nested ≤ maxDepth)
    (hfuel : (write style (.arr items)).length ≤ fuel + 1) :
    readValue (fuel + 1) depth offset (write style (.arr items) ++ rest) =
      .ok (.arr items, offset + (write style (.arr items)).length, rest) := by
  cases nested with
  | zero => simp [plainWithin] at hplain
  | succ nested =>
    rw [plainWithin] at hplain
    have hroom : ¬ maxDepth ≤ depth := by omega
    cases items with
    | nil =>
      simp [write, writeItems, readValue, hroom, skipBlanks_cons (c := ']') (by decide)]
    | cons item items =>
      obtain ⟨c, cs, hc, hblank, hclose⟩ := writeItems_eq_cons style hplain
      simp only [write, List.length_append, List.length_cons, List.length_nil] at hfuel
      have hitems := ih.items (depth + 1) (offset + 1) rest hplain (by omega) (by omega)
      simp only [write, List.cons_append, List.append_assoc, List.nil_append, readValue,
        Char.reduceEq, if_false, if_true, hroom]
      rw [hc] at hitems ⊢
      rw [List.cons_append] at hitems ⊢
      rw [skipBlanks_cons hblank]
      split
      · rename_i heq
        simp only [Prod.mk.injEq, List.cons.injEq] at heq
        exact absurd heq.2.1 hclose
      · rename_i heq
        cases heq
        rw [hitems]
        simp [Nat.add_assoc, Nat.add_comm 1]

/-- One more call reads back an object. -/
theorem ReadsBack.object (ih : ReadsBack style fuel) {fields : List (String × Json)}
    (hplain : plainWithin nested (.obj fields)) (hdepth : depth + nested ≤ maxDepth)
    (hfuel : (write style (.obj fields)).length ≤ fuel + 1) :
    readValue (fuel + 1) depth offset (write style (.obj fields) ++ rest) =
      .ok (.obj fields, offset + (write style (.obj fields)).length, rest) := by
  cases nested with
  | zero => simp [plainWithin] at hplain
  | succ nested =>
    rw [plainWithin] at hplain
    have hroom : ¬ maxDepth ≤ depth := by omega
    cases fields with
    | nil =>
      simp [write, writeFields, readValue, hroom, skipBlanks_cons (c := '\x7d') (by decide)]
    | cons field fields =>
      obtain ⟨cs, hc⟩ := writeFields_eq_cons style field fields
      simp only [write, List.length_append, List.length_cons, List.length_nil] at hfuel
      have hfields := ih.fields (depth + 1) (offset + 1) rest hplain (by omega) (by omega)
      simp only [write, List.cons_append, List.append_assoc, List.nil_append, readValue,
        Char.reduceEq, if_false, if_true, hroom]
      rw [hc] at hfields ⊢
      rw [List.cons_append] at hfields ⊢
      rw [skipBlanks_cons (by decide)]
      split
      · rename_i heq
        cases heq
      · rename_i heq
        cases heq
        rw [hfields]
        simp [Nat.add_assoc, Nat.add_comm 1]

/-- One more call reads back a value. -/
theorem ReadsBack.value_succ (h : style.Readable) (ih : ReadsBack style fuel) {v : Json}
    (hplain : plainWithin nested v) (hdepth : depth + nested ≤ maxDepth)
    (hfuel : (write style v).length ≤ fuel + 1) :
    readValue (fuel + 1) depth offset (write style v ++ rest) =
      .ok (v, offset + (write style v).length, rest) := by
  match v with
  | .null => exact (readValue_eq_readAtom (by decide) (by decide) (by decide)).trans readAtom_null
  | .bool true => exact (readValue_eq_readAtom (by decide) (by decide) (by decide)).trans readAtom_true
  | .bool false => exact (readValue_eq_readAtom (by decide) (by decide) (by decide)).trans readAtom_false
  | .str text => exact readValue_writeString h text
  | .arr _ => exact ih.array depth offset rest hplain hdepth hfuel
  | .obj _ => exact ih.object depth offset rest hplain hdepth hfuel
  | .int _ | .float _ | .illFormed _ => simp [plainWithin] at hplain

/-- One more call reads back the items of an array. -/
theorem ReadsBack.items_succ (h : style.Readable) (ih : ReadsBack style fuel) {item : Json}
    {items : List Json} (hplain : plainItems nested (item :: items))
    (hdepth : depth + nested ≤ maxDepth)
    (hfuel : (writeItems style (item :: items)).length < fuel + 1) :
    readItems (fuel + 1) depth offset (writeItems style (item :: items) ++ ']' :: rest) =
      .ok (item :: items, offset + (writeItems style (item :: items)).length + 1, rest) := by
  have hsplit := hplain
  rw [plainItems, Bool.and_eq_true] at hsplit
  obtain ⟨hitem, hitems⟩ := hsplit
  cases items with
  | nil =>
    rw [writeItems] at hfuel ⊢
    rw [readItems, ih.value _ _ _ hitem hdepth (by omega)]
    simp [skipBlanks_cons (c := ']') (by decide)]
  | cons next items =>
    obtain ⟨blanks, hseparator, hblanks⟩ := h.separator
    obtain ⟨c, cs, hc, hblank, -⟩ := writeItems_eq_cons style hitems
    simp only [writeItems, hseparator, List.length_append, List.length_cons] at hfuel
    have hnext := fun offset => ih.items depth offset rest hitems hdepth (by omega)
    simp only [writeItems, hseparator, List.append_assoc, List.cons_append]
    rw [readItems, ih.value _ _ _ hitem hdepth (by omega)]
    -- The blanks behind the comma are skipped up to the next item, which begins with no blank.
    simp only [skipBlanks_cons (c := ',') (by decide)]
    rw [hc] at hnext ⊢
    rw [List.cons_append, skipBlanks_append hblanks hblank]
    rw [List.cons_append] at hnext
    simp only [hnext, List.length_append, List.length_cons, Except.ok.injEq, Prod.mk.injEq,
      true_and, and_true]
    omega

/-- One more call reads back the fields of an object. -/
theorem ReadsBack.fields_succ (h : style.Readable) (ih : ReadsBack style fuel)
    {field : String × Json} {fields : List (String × Json)}
    (hplain : plainFields nested (field :: fields)) (hdepth : depth + nested ≤ maxDepth)
    (hfuel : (writeFields style (field :: fields)).length < fuel + 1) :
    readFields (fuel + 1) depth offset (writeFields style (field :: fields) ++ '\x7d' :: rest) =
      .ok (field :: fields, offset + (writeFields style (field :: fields)).length + 1, rest) := by
  obtain ⟨name, value⟩ := field
  have hsplit := hplain
  rw [plainFields, Bool.and_eq_true] at hsplit
  obtain ⟨hvalue, hfields⟩ := hsplit
  obtain ⟨c, cs, hc, hblank, -⟩ := write_eq_cons style hvalue
  cases fields with
  | nil =>
    simp only [writeFields, List.length_append] at hfuel
    simp only [writeFields, List.append_assoc]
    have hread := fun offset => ih.value depth offset ('\x7d' :: rest) hvalue hdepth
      (by omega)
    rw [readFields, readName_writeString h]
    rw [hc] at hread ⊢
    rw [List.cons_append] at hread ⊢
    simp only [readColon_append h hblank, hread]
    simp [skipBlanks_cons (c := '\x7d') (by decide), Nat.add_assoc]
  | cons next fields =>
    obtain ⟨blanks, hseparator, hblanks⟩ := h.separator
    obtain ⟨more, hmore⟩ := writeFields_eq_cons style next fields
    simp only [writeFields, hseparator, List.length_append, List.length_cons] at hfuel
    have hread := fun offset rest => ih.value depth offset rest hvalue hdepth
      (by omega)
    have hnext := fun offset => ih.fields depth offset rest hfields hdepth (by omega)
    simp only [writeFields, hseparator, List.append_assoc, List.cons_append]
    rw [readFields, readName_writeString h]
    rw [hc] at hread ⊢
    simp only [List.cons_append] at hread ⊢
    simp only [readColon_append h hblank, hread, skipBlanks_cons (c := ',') (by decide)]
    rw [hmore] at hnext ⊢
    rw [List.cons_append, skipBlanks_append hblanks (by decide)]
    rw [List.cons_append] at hnext
    simp only [hnext, Option.toList_some, List.map_cons, List.map_nil, List.cons_append,
      List.nil_append, List.length_append, List.length_cons, Except.ok.injEq, Prod.mk.injEq, true_and,
      and_true]
    omega

end Step

/-- Any amount of fuel reads back what is no longer than it. -/
theorem readsBack {style : Style} (h : style.Readable) (fuel : Nat) : ReadsBack style fuel := by
  induction fuel with
  | zero =>
    refine ⟨fun _ _ _ _ v hplain _ hfuel => ?_, fun _ _ _ _ _ _ _ _ hfuel => absurd hfuel (by omega),
      fun _ _ _ _ _ _ _ _ hfuel => absurd hfuel (by omega)⟩
    obtain ⟨c, cs, hc, -⟩ := write_eq_cons style hplain
    simp [hc] at hfuel
  | succ fuel ih =>
    constructor
    case value =>
      intro depth offset rest nested v
      exact ih.value_succ depth offset rest h
    case items =>
      intro depth offset rest nested item items
      exact ih.items_succ depth offset rest h
    case fields =>
      intro depth offset rest nested field fields
      exact ih.fields_succ depth offset rest h

/-- **What is written is read back.** The text of a plain value that is not nested too deep is read as that
value. -/
theorem readList_write {style : Style} (h : style.Readable) {v : Json}
    (hplain : plainWithin maxDepth v) : readList (write style v) = .ok v := by
  obtain ⟨c, cs, hc, hblank, -⟩ := write_eq_cons style hplain
  have hread := (readsBack h (2 * (write style v).length + 2)).value 0 0 [] hplain (by omega) (by omega)
  rw [List.append_nil] at hread
  rw [readList, readListAt]
  rw [hc] at hread ⊢
  simp only [skipBlanks_cons hblank, hread]
  simp [skipBlanks]

/-- The spaced text of a plain value is read as that value. -/
theorem read_spaced {v : Json} (hplain : plainWithin maxDepth v) : read v.spaced = .ok v := by
  rw [read, spaced, String.toList_ofList, readList_write readable_spacedStyle hplain]

/-- The compact text of a plain value is read as that value. -/
theorem read_compact {v : Json} (hplain : plainWithin maxDepth v) : read v.compact = .ok v := by
  rw [read, compact, String.toList_ofList, readList_write readable_compactStyle hplain]

/-! ## The spaced form is ASCII

A character outside printable ASCII is written by number, so the spaced text of a plain value can be kept and
sent as ASCII.
-/

/-- The character is one of printable ASCII. -/
def IsPrintable (c : Char) : Prop := 0x20 ≤ c.toNat ∧ c.toNat ≤ 0x7E

instance (c : Char) : Decidable (IsPrintable c) := inferInstanceAs (Decidable (_ ∧ _))

/-- A known text is tested character by character. -/
theorem isPrintable_of_all {cs : List Char} (h : cs.all fun c => decide (IsPrintable c)) :
    ∀ c ∈ cs, IsPrintable c := by
  simpa using h

theorem isPrintable_digitChar {n : Nat} (h : n < 16) : IsPrintable (Nat.digitChar n) := by
  interval_cases n <;> decide

theorem isPrintable_unicodeEscape (n : Nat) : ∀ c ∈ unicodeEscape n, IsPrintable c := by
  have hdigit (m : Nat) : IsPrintable (Nat.digitChar (m % 16)) :=
    isPrintable_digitChar (Nat.mod_lt _ (by omega))
  have hmarks : IsPrintable '\\' ∧ IsPrintable 'u' := by decide
  simp [unicodeEscape, hexDigits_four, hdigit, hmarks]

/-- Every character is escaped by printable ones. -/
theorem isPrintable_escapeChar (c : Char) : ∀ d ∈ escapeChar spacedStyle c, IsPrintable d := by
  unfold escapeChar
  split_ifs with hquote hbackslash hnewline hreturn htab hbackspace hfeed hkeeps
  iterate 7 exact isPrintable_of_all rfl
  · intro d hd
    rw [List.mem_singleton.mp hd]
    simpa [spacedStyle, IsPrintable] using hkeeps
  · unfold numericEscape
    split_ifs
    · exact isPrintable_unicodeEscape _
    · intro d hd
      exact (List.mem_append.mp hd).elim (isPrintable_unicodeEscape _ d) (isPrintable_unicodeEscape _ d)

theorem isPrintable_writeString (text : String) :
    ∀ c ∈ writeString spacedStyle text, IsPrintable c := by
  intro c hc
  simp only [writeString, List.mem_append, List.mem_cons, List.mem_flatMap, List.not_mem_nil,
    or_false] at hc
  rcases hc with (rfl | ⟨d, -, hd⟩) | rfl
  · decide
  · exact isPrintable_escapeChar d c hd
  · decide

mutual

/-- The spaced text of a plain value is printable ASCII. -/
theorem isPrintable_write : ∀ {depth : Nat} (v : Json), plainWithin depth v →
    ∀ c ∈ write spacedStyle v, IsPrintable c
  | _, .null, _ => isPrintable_of_all rfl
  | _, .bool true, _ => isPrintable_of_all rfl
  | _, .bool false, _ => isPrintable_of_all rfl
  | _, .str text, _ => isPrintable_writeString text
  | depth + 1, .arr items, h => by
    rw [plainWithin] at h
    have hitems := isPrintable_writeItems items h
    have hbrackets : IsPrintable '[' ∧ IsPrintable ']' := by decide
    simpa [write, hbrackets, or_imp, forall_and] using hitems
  | depth + 1, .obj fields, h => by
    rw [plainWithin] at h
    have hfields := isPrintable_writeFields fields h
    have hbraces : IsPrintable '\x7b' ∧ IsPrintable '\x7d' := by decide
    simpa [write, hbraces, or_imp, forall_and] using hfields
  | 0, .arr _, h | 0, .obj _, h | _, .int _, h | _, .float _, h | _, .illFormed _, h => by
    simp [plainWithin] at h

theorem isPrintable_writeItems : ∀ {depth : Nat} (items : List Json), plainItems depth items →
    ∀ c ∈ writeItems spacedStyle items, IsPrintable c
  | _, [], _ => by simp [writeItems]
  | _, [item], h => by
    rw [plainItems, Bool.and_eq_true] at h
    exact isPrintable_write item h.1
  | _, item :: next :: rest, h => by
    rw [plainItems, Bool.and_eq_true] at h
    have hitem := isPrintable_write item h.1
    have hrest := isPrintable_writeItems (next :: rest) h.2
    have hseparator : ∀ c ∈ spacedStyle.separator, IsPrintable c := isPrintable_of_all rfl
    simp only [writeItems, List.mem_append]
    rintro c ((hc | hc) | hc)
    · exact hitem c hc
    · exact hseparator c hc
    · exact hrest c hc

theorem isPrintable_writeFields : ∀ {depth : Nat} (fields : List (String × Json)),
    plainFields depth fields → ∀ c ∈ writeFields spacedStyle fields, IsPrintable c
  | _, [], _ => by simp [writeFields]
  | _, [(name, value)], h => by
    rw [plainFields, Bool.and_eq_true] at h
    have hvalue := isPrintable_write value h.1
    have hcolon : ∀ c ∈ spacedStyle.colon, IsPrintable c := isPrintable_of_all rfl
    simp only [writeFields, List.mem_append]
    rintro c ((hc | hc) | hc)
    · exact isPrintable_writeString name c hc
    · exact hcolon c hc
    · exact hvalue c hc
  | _, (name, value) :: next :: rest, h => by
    rw [plainFields, Bool.and_eq_true] at h
    have hvalue := isPrintable_write value h.1
    have hrest := isPrintable_writeFields (next :: rest) h.2
    have hcolon : ∀ c ∈ spacedStyle.colon, IsPrintable c := isPrintable_of_all rfl
    have hseparator : ∀ c ∈ spacedStyle.separator, IsPrintable c := isPrintable_of_all rfl
    simp only [writeFields, List.mem_append]
    rintro c ((((hc | hc) | hc) | hc) | hc)
    · exact isPrintable_writeString name c hc
    · exact hcolon c hc
    · exact hvalue c hc
    · exact hseparator c hc
    · exact hrest c hc

end

end SchemaRegistry.Json
