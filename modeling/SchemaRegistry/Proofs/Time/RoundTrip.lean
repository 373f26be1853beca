import Mathlib.Tactic.IntervalCases
import SchemaRegistry.Proofs.Text.Utf8
import SchemaRegistry.Time.Reader

/-!
# Reading back points in time

The text of a stamp shows its date and its time of day in full, and of its offset the sign, the hours and the
minutes. So the text is read back as the stamp without its zone, with what is left of a minute cut off from its
offset. That is the same point in time just if the offset is of whole minutes and the fields of the stamp have one
meaning in its zone. An offset that is shown as a whole day is not read. No value of any kind is read as a stamp
with another offset or with a zone.
-/

namespace SchemaRegistry.Time

open DateTime (digits fractionText offsetText)

/-! ## Digits -/

theorem digit?_digitChar {n : Nat} (h : n < 10) : digit? (Nat.digitChar n) = some n := by
  interval_cases n <;> rfl

theorem length_digits (count n : Nat) : (digits count n).length = count := by
  induction count generalizing n with
  | zero => rfl
  | succ count ih => rw [digits, List.length_append, ih, List.length_singleton]

/-- The first of several digits are read as they were written. -/
theorem readDigits?_append {count n : Nat} (h : n < 10 ^ count) (more value : Nat) (rest : List Char) :
    readDigits? (count + more) value (digits count n ++ rest) =
      readDigits? more (value * 10 ^ count + n) rest := by
  -- The last digit is written behind the others, but it is read from what they leave.
  induction count generalizing n more rest with
  | zero =>
    obtain rfl : n = 0 := by omega
    simp [digits]
  | succ count ih =>
    rw [Nat.pow_succ] at h
    have hhead : n / 10 < 10 ^ count := by omega
    have hlast : n % 10 < 10 := Nat.mod_lt _ (by decide)
    have hvalue : (value * 10 ^ count + n / 10) * 10 + n % 10 = value * 10 ^ (count + 1) + n := by
      rw [Nat.pow_succ, ← Nat.mul_assoc]
      omega
    calc
      readDigits? (count + 1 + more) value (digits (count + 1) n ++ rest)
        = readDigits? (count + (more + 1)) value
            (digits count (n / 10) ++ Nat.digitChar (n % 10) :: rest) := by
          rw [digits, List.append_assoc, List.singleton_append, Nat.add_right_comm, Nat.add_assoc]
      _ = readDigits? (more + 1) (value * 10 ^ count + n / 10) (Nat.digitChar (n % 10) :: rest) :=
          ih hhead _ _
      _ = readDigits? more ((value * 10 ^ count + n / 10) * 10 + n % 10) rest := by
          rw [readDigits?, digit?_digitChar hlast]
      _ = readDigits? more (value * 10 ^ (count + 1) + n) rest := by rw [hvalue]

/-- Digits are read back as the number that they were written from. -/
theorem readDigits?_digits (count : Nat) {n : Nat} (h : n < 10 ^ count) (rest : List Char) :
    readDigits? count 0 (digits count n ++ rest) = some (n, rest) := by
  have hread := readDigits?_append h 0 0 rest
  rwa [Nat.zero_mul, Nat.zero_add, Nat.add_zero, readDigits?] at hread

@[simp]
theorem readChar?_cons (c : Char) (rest : List Char) : readChar? c (c :: rest) = some rest := by
  rw [readChar?, if_pos rfl]

theorem below?_val {bound : Nat} (n : Fin bound) : below? bound n.val = some n := by
  rw [below?, dif_pos n.isLt]

/-! ## Dates -/

/-- The ten characters of a date. -/
def Date.chars (d : Date) : List Char :=
  digits 4 d.year ++ '-' :: (digits 2 d.month ++ '-' :: digits 2 d.day)

theorem Date.length_chars (d : Date) : d.chars.length = 10 := by
  simp [chars, length_digits]

theorem Date.month_pos (d : Date) : 1 ≤ d.month := by
  have h := d.valid.2
  by_contra hmonth
  have hzero : d.month = 0 := by omega
  simp [hzero, daysInMonth] at h
  omega

theorem Date.of?_self (d : Date) : Date.of? d.year d.month d.day = some d := by
  rw [of?, dif_pos d.valid]

/-- A date is read back, whatever follows it. -/
theorem readDate_chars (d : Date) (rest : List Char) :
    readDate (d.chars ++ rest) = .ok ((d.year, d.month, d.day), rest) := by
  -- The reader counts bytes before it reads, and there is at least one for each character.
  have hsize : ¬ Text.Utf8.size (d.chars ++ rest) < 10 := by
    have hlength := Text.Utf8.length_le_size (d.chars ++ rest)
    rw [List.length_append, d.length_chars] at hlength
    omega
  have hyear : d.year < 10 ^ 4 := by have := d.valid.1; omega
  have hmonth := d.month_le
  have hday := d.day_le
  have hmonths : ¬ (d.month < 1 ∨ 12 < d.month) := by have := d.month_pos; omega
  have hdays : ¬ (d.day < 1 ∨ daysInMonth d.year d.month < d.day) := by have := d.valid.2; omega
  have hread : readDigits? 4 0 (d.chars ++ rest) =
      some (d.year, '-' :: (digits 2 d.month ++ '-' :: (digits 2 d.day ++ rest))) := by
    simp only [Date.chars, List.append_assoc, List.cons_append]
    exact readDigits?_digits 4 hyear _
  have hreadMonth := readDigits?_digits 2 (n := d.month) (by omega)
  have hreadDay := readDigits?_digits 2 (n := d.day) (by omega)
  rw [readDate, if_neg hsize]
  simp only [hread, hreadMonth, hreadDay, readChar?_cons, hmonths, hdays, if_false, bind, Except.bind]
  rfl

/-! ## Fractions and seconds -/

theorem isSome_digit?_of_mem_digits {count n : Nat} : ∀ c ∈ digits count n, (digit? c).isSome := by
  induction count generalizing n with
  | zero => simp [digits]
  | succ count ih =>
    have hlast := digit?_digitChar (Nat.mod_lt n (by decide : 0 < 10))
    simpa [digits, or_imp, forall_and, hlast] using ih

/-- The values of digits make up the number that they were written from. -/
theorem foldl_digits (count : Nat) {n : Nat} (h : n < 10 ^ count) (value : Nat) :
    ((digits count n).filterMap digit?).foldl (fun n d => n * 10 + d) value = value * 10 ^ count + n := by
  induction count generalizing n with
  | zero =>
    obtain rfl : n = 0 := by omega
    simp [digits]
  | succ count ih =>
    rw [Nat.pow_succ] at h
    have hlast := digit?_digitChar (Nat.mod_lt n (by decide : 0 < 10))
    rw [digits, List.filterMap_append, List.foldl_append, ih (by omega), List.filterMap_cons_some hlast]
    rw [List.filterMap_nil, List.foldl_cons, List.foldl_nil, Nat.pow_succ, ← Nat.mul_assoc]
    omega

theorem length_filterMap_digits (count n : Nat) : ((digits count n).filterMap digit?).length = count := by
  induction count generalizing n with
  | zero => rfl
  | succ count ih =>
    have hlast := digit?_digitChar (Nat.mod_lt n (by decide : 0 < 10))
    rw [digits, List.filterMap_append, List.length_append, ih, List.filterMap_cons_some hlast]
    rfl

/-- Six digits are read as so many microseconds. -/
theorem microOf_digits (micro : Fin 1000000) : microOf ((digits 6 micro.val).filterMap digit?) = micro := by
  have hlength := length_filterMap_digits 6 micro.val
  have hvalue := foldl_digits 6 (n := micro.val) micro.isLt 0
  apply Fin.ext
  rw [microOf]
  dsimp only
  rw [List.take_left' hlength, hvalue, Nat.zero_mul, Nat.zero_add, Nat.mod_eq_of_lt micro.isLt]

/-- What follows digits of a second neither continues them nor begins a fraction. -/
def EndsSecond (cs : List Char) : Prop := ∀ c ∈ cs.head?, digit? c = none ∧ c ≠ '.' ∧ c ≠ ','

/-- Digits are taken up to what follows them. -/
theorem takeWhile_digits (count n : Nat) {cs : List Char} (h : ∀ c ∈ cs.head?, digit? c = none) :
    ((digits count n ++ cs).takeWhile fun c => (digit? c).isSome) = digits count n := by
  rw [List.takeWhile_append_of_pos isSome_digit?_of_mem_digits]
  cases cs with
  | nil => simp
  | cons c cs =>
    have hc : digit? c = none := h c rfl
    simp [hc]

/-- The part of a second is read back. -/
theorem readFraction?_fractionText (micro : Fin 1000000) {cs : List Char} (h : EndsSecond cs) :
    readFraction? (fractionText micro ++ cs) = some (micro, cs) := by
  by_cases hzero : micro.val = 0
  · obtain rfl : micro = noMicro := Fin.ext hzero
    rw [fractionText, if_pos hzero, List.nil_append]
    cases cs with
    | nil => rfl
    | cons c cs =>
      obtain ⟨-, hpoint, hcomma⟩ := h c rfl
      rw [readFraction?, if_neg (by simp [hpoint, hcomma])]
  · -- All six digits are taken, and nothing behind them.
    have htake := takeWhile_digits 6 micro.val fun c hc => (h c hc).1
    have hlength := length_digits 6 micro.val
    have hdigits : (digits 6 micro.val).isEmpty = false := by
      rw [List.isEmpty_eq_false_iff, ← List.length_pos_iff, hlength]
      decide
    rw [fractionText, if_neg hzero, List.cons_append, readFraction?, if_pos (.inl rfl), htake]
    simp only [hdigits, microOf_digits, List.drop_left]
    rfl

/-- The seconds are read back. -/
theorem readSeconds?_chars (second : Fin 60) (micro : Fin 1000000) {cs : List Char} (h : EndsSecond cs) :
    readSeconds? (':' :: (digits 2 second ++ (fractionText micro ++ cs))) = some ((second, micro), cs) := by
  have hsecond := readDigits?_digits 2 (n := second.val) (by omega)
  simp only [readSeconds?, hsecond, below?_val, readFraction?_fractionText micro h, Option.bind_eq_bind,
    Option.bind_some]
  rfl

/-! ## Offsets -/

namespace Offset

/-- The minutes that the text of an offset shows. -/
def shownMinutes (offset : Offset) : Int :=
  let minutes := offset.seconds.natAbs / 60
  if offset.seconds < 0 then -(minutes : Int) else minutes

/-- The offset that the text of an offset shows. A whole day is none. -/
def shown? (offset : Offset) : Option Offset := ofMinutes? offset.shownMinutes

/-- The offset is of whole minutes. -/
def WholeMinutes (offset : Offset) : Prop := 60000000 ∣ offset.micros

theorem wholeMinutes_ofMinutes? {minutes : Int} {offset : Offset} (h : ofMinutes? minutes = some offset) :
    offset.WholeMinutes := by
  unfold ofMinutes? of? at h
  split at h
  · cases h
    exact Dvd.intro_left minutes rfl
  · cases h

/-- An offset of whole minutes is shown as it is. -/
theorem shown?_of_wholeMinutes {offset : Offset} (h : offset.WholeMinutes) : offset.shown? = some offset := by
  obtain ⟨minutes, hminutes⟩ := h
  have hshown : offset.shownMinutes * 60000000 = offset.micros := by
    unfold shownMinutes seconds
    dsimp only
    split_ifs <;> omega
  rw [shown?, ofMinutes?, hshown, of?, dif_pos offset.bounded]

end Offset

/-- Behind its sign, the text of an offset is read back as so many minutes. -/
theorem readOffset?_signed {c : Char} {sign : Int} (hsign : offsetSign? c = some sign) {minutes : Nat}
    (h : minutes ≤ 1440) :
    readOffset? (c :: (digits 2 (minutes / 60) ++ ':' :: digits 2 (minutes % 60))) =
      (Offset.ofMinutes? (sign * minutes)).map some := by
  have hhours := readDigits?_digits 2 (n := minutes / 60) (by omega)
    (':' :: digits 2 (minutes % 60))
  have hminutes := readDigits?_digits 2 (n := minutes % 60) (by omega) []
  rw [List.append_nil] at hminutes
  have hbelow : below? 60 (minutes % 60) = some ⟨minutes % 60, Nat.mod_lt _ (by decide)⟩ :=
    below?_val ⟨minutes % 60, Nat.mod_lt _ (by decide)⟩
  have hsum : minutes / 60 * 60 + minutes % 60 = minutes := by omega
  have hutc : c ≠ 'Z' ∧ c ≠ 'z' := by
    constructor <;> rintro rfl <;> simp [offsetSign?] at hsign
  unfold readOffset?
  split
  case h_1 heq => cases heq
  case h_2 heq => exact absurd (List.cons.inj heq).1 hutc.1
  case h_3 heq => exact absurd (List.cons.inj heq).1 hutc.2
  case h_4 heq =>
    cases heq
    simp only [hsign, hhours, hminutes, hbelow, readChar?_cons, Option.getD_some, Option.bind_eq_bind,
      Option.bind_some, hsum]
    cases Offset.ofMinutes? (sign * minutes) <;> rfl

/-- The text of an offset is read back as the offset that it shows. -/
theorem readOffset?_offsetText (offset : Offset) :
    readOffset? (offsetText offset) = offset.shown?.map some := by
  have hbounded := offset.bounded
  -- Rounding to seconds may make a whole day of an offset, so the hours may be 24.
  have hminutes : offset.seconds.natAbs / 60 ≤ 1440 := by
    unfold Offset.seconds
    simp only [dayMicros] at hbounded
    dsimp only
    split_ifs <;> omega
  by_cases hzero : offset.seconds = 0
  · have hshown : offset.shownMinutes = 0 := by simp [Offset.shownMinutes, hzero]
    rw [offsetText, if_pos hzero, Offset.shown?, hshown]
    rfl
  · have hminus : offsetSign? '-' = some (-1) := rfl
    have hplus : offsetSign? '+' = some 1 := rfl
    rw [offsetText, if_neg hzero, Offset.shown?, Offset.shownMinutes]
    by_cases hnegative : offset.seconds < 0
    · rw [if_pos hnegative, if_pos hnegative, List.cons_append, readOffset?_signed hminus hminutes,
        Int.neg_one_mul]
    · rw [if_neg hnegative, if_neg hnegative, List.cons_append, readOffset?_signed hplus hminutes,
        Int.one_mul]

theorem readOffset?_getD (offset : Option Offset) :
    readOffset? ((offset.map offsetText).getD []) = offset.mapM Offset.shown? := by
  cases offset with
  | none => rfl
  | some offset => exact readOffset?_offsetText offset

/-- The text of an offset begins with no digit and no fraction. -/
theorem endsSecond_offsetText (offset : Option Offset) : EndsSecond ((offset.map offsetText).getD []) := by
  cases offset with
  | none => simp [EndsSecond]
  | some offset =>
    rw [Option.map_some, Option.getD_some, offsetText]
    split_ifs <;> simp [EndsSecond] <;> decide

/-! ## Stamps -/

namespace DateTime

/-- The stamp with its offset as a fixed one. -/
def zoneless (t : DateTime) : DateTime := { t with zone := none }

/-- The stamp that the text of a stamp shows, if it is one. -/
def shown? (t : DateTime) : Option DateTime :=
  (t.offset.mapM Offset.shown?).map fun offset => { t.zoneless with offset := offset }

/-- The offset of the stamp, if it has one, is of whole minutes. -/
def WholeMinutes (t : DateTime) : Prop := ∀ offset ∈ t.offset, offset.WholeMinutes

/-- The characters of the time of day and the offset. -/
def clockChars (t : DateTime) : List Char :=
  digits 2 t.hour ++ ':' :: (digits 2 t.minute ++ ':' :: (digits 2 t.second ++
    (fractionText t.micro ++ (t.offset.map offsetText).getD [])))

theorem chars_eq (t : DateTime) : t.chars = t.date.chars ++ 'T' :: t.clockChars := by
  simp [chars, Date.chars, clockChars]

end DateTime

/-- The time of day and the offset are read back, the offset as it is shown. -/
theorem readDayTime?_clockChars (t : DateTime) :
    (readDayTime? t.clockChars).map (DayTime.on · t.date) = t.shown? := by
  have hhour := readDigits?_digits 2 (n := t.hour.val) (by omega)
  have hminute := readDigits?_digits 2 (n := t.minute.val) (by omega)
  have hseconds := readSeconds?_chars t.second t.micro (endsSecond_offsetText t.offset)
  have hoffset := readOffset?_getD t.offset
  simp only [readDayTime?, DateTime.clockChars, hhour, hminute, hseconds, hoffset, below?_val, readChar?_cons,
    Option.bind_eq_bind, Option.bind_some, DateTime.shown?]
  cases t.offset.mapM Offset.shown? <;> rfl

/-- The text of a stamp is no numeral: a minus stands in it, but not at its head. -/
theorem readNumeral?_chars (d : Date) (rest : List Char) : readNumeral? (d.chars ++ rest) = none := by
  obtain ⟨behind, hbehind⟩ : ∃ behind, d.chars ++ rest = digits 4 d.year ++ '-' :: behind :=
    ⟨digits 2 d.month ++ '-' :: (digits 2 d.day ++ rest), by simp [Date.chars]⟩
  obtain ⟨c, more, hdigits⟩ := List.exists_cons_of_length_eq_add_one (length_digits 4 d.year)
  have hc : (digit? c).isSome := isSome_digit?_of_mem_digits c (hdigits ▸ List.mem_cons_self)
  have hunsigned : c ≠ '-' ∧ c ≠ '+' := by constructor <;> rintro rfl <;> simp [digit?] at hc
  have hminus : ∀ c ∈ ('-' :: behind).head?, digit? c = none := by simp [digit?]
  have hwhole := takeWhile_digits 4 d.year hminus
  have hcons : d.chars ++ rest = c :: (more ++ '-' :: behind) := by rw [hbehind, hdigits, List.cons_append]
  unfold readNumeral?
  split
  rename_i negative body hsign
  -- No sign is taken off, so the digits of the year are all that comes before the minus.
  have hbody : body = digits 4 d.year ++ '-' :: behind := by
    rw [hcons] at hsign
    split at hsign
    · rename_i heq
      exact absurd (List.cons.inj heq).1 hunsigned.1
    · rename_i heq
      exact absurd (List.cons.inj heq).1 hunsigned.2
    · rw [← hbehind, hcons]
      exact (Prod.ext_iff.mp hsign).2.symm
  simp only [hbody, hwhole, List.drop_left]
  split <;> rfl

/-- **The text of a stamp is read back as the stamp that it shows**, and is refused if it shows none. -/
theorem ofText_text (t : DateTime) : (ofText t.text).toOption = t.shown? := by
  have hdate := readDate_chars t.date ('T' :: t.clockChars)
  have hclock := readDayTime?_clockChars t
  have hseparator : isDateTimeSeparator 'T' = true := rfl
  rw [← hclock, ofText, DateTime.text, String.toList_ofList, t.chars_eq]
  simp only [hdate, hseparator, if_true]
  cases readDayTime? t.clockChars with
  | some time =>
    simp only [Option.map_some, t.date.of?_self]
    rfl
  | none =>
    -- Without a time of day the text is neither a numeral nor a date alone.
    simp only [Option.map_none, readNumeral?_chars, readDateOnly, hdate]
    rfl

/-! ## Whole minutes -/

theorem Offset.wholeMinutes_of_mapM_shown? {offset shown : Option Offset}
    (h : offset.mapM Offset.shown? = some shown) : ∀ o ∈ shown, o.WholeMinutes := by
  cases offset with
  | none =>
    cases h
    simp
  | some offset =>
    obtain ⟨o, ho, rfl⟩ := Option.map_eq_some_iff.mp h
    intro other hother
    cases hother
    exact wholeMinutes_ofMinutes? ho

/-- A stamp that is shown has an offset of whole minutes, if it has one. -/
theorem DateTime.wholeMinutes_of_shown? {t shown : DateTime} (h : t.shown? = some shown) :
    shown.WholeMinutes := by
  obtain ⟨offset, hoffset, rfl⟩ := Option.map_eq_some_iff.mp h
  exact Offset.wholeMinutes_of_mapM_shown? hoffset

/-- A stamp of whole minutes is shown as it is, but for its zone. -/
theorem DateTime.shown?_of_wholeMinutes {t : DateTime} (h : t.WholeMinutes) : t.shown? = some t.zoneless := by
  have hshown : t.offset.mapM Offset.shown? = some t.offset := by
    cases hoffset : t.offset with
    | none => rfl
    | some offset => rw [Option.mapM_some, Offset.shown?_of_wholeMinutes (h offset hoffset)]; rfl
  rw [shown?, hshown, Option.map_some]
  rfl

namespace DateTime

/-! ## The same point in time -/

/-- The text of the stamp says what point in time it is. -/
structure Lossless (t : DateTime) : Prop where
  wholeMinutes : t.WholeMinutes
  steady : t.IsSteady

/-- A stamp has nothing that its text does not show. -/
structure Plain (t : DateTime) : Prop where
  wholeMinutes : t.WholeMinutes
  zone_eq_none : t.zone = none

theorem Plain.zoneless_eq {t : DateTime} (h : t.Plain) : t.zoneless = t := by
  rw [zoneless, ← h.zone_eq_none]

theorem Plain.lossless {t : DateTime} (h : t.Plain) : t.Lossless :=
  ⟨h.wholeMinutes, by simp [IsSteady, h.zone_eq_none]⟩

/-- A stamp without a zone is of the same zone as no other. -/
theorem same_of_zone_eq_none {t other : DateTime} (h : other.zone = none) :
    t.same other = (decide t.IsSteady &&
      match t.instant?, other.instant? with
      | some x, some y => x == y
      | none, none => t.wall == other.wall
      | _, _ => false) := by
  have hshare : t.shareZone other = false := by
    unfold shareZone
    rw [h]
    cases t.zone <;> rfl
  have hsteady : decide other.IsSteady = true := by simp [IsSteady, h]
  rw [same, if_neg (by simp [hshare]), hsteady]
  exact congrArg (· && _) (Bool.and_true _)

/-- A stamp that is lossless is the same point in time without its zone. -/
theorem Lossless.same_zoneless {t : DateTime} (h : t.Lossless) : t.same t.zoneless := by
  have hinstant : t.zoneless.instant? = t.instant? := rfl
  have hwall : t.zoneless.wall = t.wall := rfl
  rw [same_of_zone_eq_none rfl, hinstant, hwall, decide_eq_true h.steady]
  cases t.instant? <;> simp

/-- A stamp that is shown as the same point in time is lossless. -/
theorem lossless_of_same {t shown : DateTime} (h : t.shown? = some shown) (hsame : t.same shown) :
    t.Lossless := by
  have hwhole := wholeMinutes_of_shown? h
  obtain ⟨offset, hoffset, rfl⟩ := Option.map_eq_some_iff.mp h
  rw [same_of_zone_eq_none rfl, Bool.and_eq_true, decide_eq_true_iff] at hsame
  obtain ⟨hsteady, hsame⟩ := hsame
  refine ⟨fun o ho => ?_, hsteady⟩
  have ho : t.offset = some o := ho
  rw [ho] at hoffset
  obtain ⟨p, -, rfl⟩ := Option.map_eq_some_iff.mp hoffset
  -- The fields agree, so the same instant has the same offset.
  have hmicros : t.wall - o.micros = t.wall - p.micros := by
    simpa [instant?, ho, wall, zoneless] using hsame
  have hp : 60000000 ∣ p.micros := hwhole p rfl
  rw [Offset.WholeMinutes]
  omega

end DateTime

/-! ## Values -/

theorem DateTime.plain_midnight (d : Date) : (midnight d).Plain := by
  refine ⟨fun offset h => ?_, rfl⟩
  cases h

/-- A number names a stamp in UTC. -/
theorem plain_of_ofCount {unit micros : Nat} {n : Int} {t : DateTime}
    (h : ofCount unit n micros = .ok t) : t.Plain := by
  unfold ofCount at h
  dsimp only at h
  split_ifs at h
  split at h
  · rename_i hwall
    cases h
    obtain ⟨date, -, rfl⟩ := Option.map_eq_some_iff.mp hwall
    refine ⟨fun offset hoffset => ?_, rfl⟩
    cases hoffset
    exact Dvd.intro 0 rfl
  · cases h

theorem plain_of_ofFloat {x : Number.Binary64} {t : DateTime} (h : ofFloat x = .ok t) :
    t.Plain := by
  unfold ofFloat at h
  split at h
  · cases h
  · cases h
  · exact plain_of_ofCount h

theorem plain_of_stamp {numeral : Numeral} {t : DateTime} (h : numeral.stamp = .ok t) :
    t.Plain := by
  cases numeral with
  | whole n => exact plain_of_ofCount h
  | fraction x => exact plain_of_ofFloat h

/-- An offset is read in minutes. -/
theorem wholeMinutes_of_readOffset? {cs : List Char} {offset : Option Offset}
    (h : readOffset? cs = some offset) : ∀ o ∈ offset, o.WholeMinutes := by
  have hutc : ∀ o ∈ some Offset.utc, o.WholeMinutes := by
    intro o ho
    cases ho
    exact Dvd.intro 0 rfl
  unfold readOffset? at h
  split at h
  · cases h
    simp
  · cases h
    exact hutc
  · cases h
    exact hutc
  · simp only [Option.bind_eq_bind, Option.bind_eq_some_iff] at h
    obtain ⟨sign, -, hours, -, minutes, -, below, -, o, hminutes, hend⟩ := h
    split at hend
    · cases hend
      intro other hother
      cases hother
      exact Offset.wholeMinutes_ofMinutes? hminutes
    · cases hend

theorem plain_of_readDayTime? {cs : List Char} {time : DayTime} (h : readDayTime? cs = some time)
    (d : Date) : (time.on d).Plain := by
  simp only [readDayTime?, Option.bind_eq_bind, Option.bind_eq_some_iff] at h
  obtain ⟨hour, -, below, -, colon, -, minute, -, below', -, seconds, -, offset, hoffset, hend⟩ := h
  cases hend
  exact ⟨wholeMinutes_of_readOffset? hoffset, rfl⟩

theorem plain_of_readDateOnly {cs : List Char} {t : DateTime} (h : readDateOnly cs = .ok t) :
    t.Plain := by
  unfold readDateOnly at h
  dsimp only at h
  split at h
  -- What is no date may still be a whole number.
  iterate 2
    · split at h
      · split at h
        · cases h
        · exact plain_of_ofCount h
      · cases h
  · split at h
    · cases h
      exact DateTime.plain_midnight _
    · cases h

/-- A stamp that is read from a text has nothing that its text does not show. -/
theorem plain_of_ofText {text : String} {t : DateTime} (h : ofText text = .ok t) : t.Plain := by
  unfold ofText at h
  dsimp only at h
  split at h
  · rename_i year month day time hcomplete
    split at h
    · cases h
      split at hcomplete
      · split_ifs at hcomplete
        obtain ⟨time, htime, heq⟩ := Option.map_eq_some_iff.mp hcomplete
        cases heq
        exact plain_of_readDayTime? htime _
      · cases hcomplete
    · cases h
  · split at h
    · rename_i hnumeral
      cases h
      obtain ⟨numeral, -, hstamp⟩ := Option.map_eq_some_iff.mp hnumeral
      exact plain_of_stamp hstamp
    · cases h
    · exact plain_of_readDateOnly h

/-- **Every stamp that is read has an offset of whole minutes, if it has one, and no zone.** -/
theorem plain_of_ofJson {v : Json} {t : DateTime} (h : ofJson v = .ok t) : t.Plain := by
  unfold ofJson at h
  split at h
  · exact plain_of_ofText h
  · split_ifs at h
    · exact plain_of_ofCount h
    · split at h
      · cases h
      · exact plain_of_ofFloat h
  · exact plain_of_ofFloat h
  · cases h

end SchemaRegistry.Time
