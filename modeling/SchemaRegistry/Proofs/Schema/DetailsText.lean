import SchemaRegistry.Proofs.Json.ExchangeRoundTrip
import SchemaRegistry.Proofs.Registry.StoredAttributes
import SchemaRegistry.Proofs.Time.RoundTrip
import SchemaRegistry.Schema.Record
import SchemaRegistry.Time.Clock

/-!
# Schemas as text are read back

A schema has a text unless one of its strings holds halves of characters. The text shows all of it, except that
an offset from UTC is shown in hours and minutes, and without the time zone that it comes from. So what is read
back is the schema with each point in time as it is shown, and that is the same schema just if all of its offsets
are of whole minutes and all of its points in time have one meaning in their zones. A schema that was read has no
others.
-/

namespace SchemaRegistry

namespace Checked

variable {α β : Type}

/-! ## What a check takes

The value that a check of several parts takes, put together from the values that the parts take. -/

theorem toOption_eq_some {x : Checked α} {a : α} : x.toOption = some a ↔ x = accepted a := by
  cases x <;> simp [toOption]

theorem toOption_map (f : α → β) (x : Checked α) : (f <$> x).toOption = x.toOption.map f := by
  cases x <;> rfl

theorem toOption_seq (f : Checked (α → β)) (x : Checked α) :
    (f <*> x).toOption = f.toOption <*> x.toOption := by
  cases f <;> cases x <;> rfl

theorem toOption_under (step : Step) (x : Checked α) : (x.under step).toOption = x.toOption := by
  cases x <;> rfl

/-- A field that must be there is taken as its value is. -/
theorem toOption_required {name : String} {check : Json → Checked α} {fields : Fields} {value : Json}
    (h : Json.lookup name fields = some value) :
    (required name check fields).toOption = (check value).toOption := by
  rw [required, toOption_under, h]

/-- So is a field that has a default, if it is there. -/
theorem toOption_withDefault {name : String} {default : α} {check : Json → Checked α} {fields : Fields}
    {value : Json} (h : Json.lookup name fields = some value) :
    (withDefault name default check fields).toOption = (check value).toOption := by
  rw [withDefault, h]
  exact toOption_under _ _

/-- A string is taken as it is written. -/
@[simp]
theorem looseText_ofLoose (t : LooseText) : looseText (.ofLoose t) = accepted t := by
  obtain ⟨text, halves⟩ := t
  cases halves <;> rfl

theorem nullable_looseText (t : Option LooseText) : nullable looseText (.ofLoose? t) = accepted t := by
  cases t with
  | none => rfl
  | some t =>
    rw [Json.ofLoose?, nullable, looseText_ofLoose]
    · rfl
    · unfold Json.ofLoose
      split <;> simp

/-- A point in time is taken as it is shown. -/
theorem toOption_time (t : Time.DateTime) : (time (.str t.text)).toOption = t.shown? := by
  rw [← Time.ofText_text, time, Time.ofJson]
  cases Time.ofText t.text <;> rfl

theorem toOption_nullable_time (t : Option Time.DateTime) :
    (nullable time (.ofText? (t.map Time.DateTime.text))).toOption = t.mapM Time.DateTime.shown? := by
  cases t with
  | none => rfl
  | some t =>
    rw [Option.map_some, Json.ofText?, nullable, toOption_map, toOption_time]
    · rfl
    · simp

end Checked

/-! ## What is read back -/

namespace Provenance

/-- The fields under which a record is written. -/
def fields (p : Provenance) : Checked.Fields :=
  [("created_by", .ofLoose p.createdBy), ("created_at", .str p.createdAt.text),
    ("updated_by", .ofLoose? p.updatedBy), ("updated_at", .ofText? (p.updatedAt.map Time.DateTime.text))]

theorem toJson_eq_obj (p : Provenance) : p.toJson = .obj p.fields := rfl

theorem lookup_fields (p : Provenance) :
    Json.lookup "created_by" p.fields = some (.ofLoose p.createdBy) ∧
      Json.lookup "created_at" p.fields = some (.str p.createdAt.text) ∧
      Json.lookup "updated_by" p.fields = some (.ofLoose? p.updatedBy) ∧
      Json.lookup "updated_at" p.fields = some (.ofText? (p.updatedAt.map Time.DateTime.text)) :=
  ⟨rfl, rfl, rfl, rfl⟩

/-- The record that the text of a record shows, if it is one. -/
def shown? (p : Provenance) : Option Provenance :=
  p.createdAt.shown?.bind fun createdAt =>
    (p.updatedAt.mapM Time.DateTime.shown?).map fun updatedAt =>
      { p with createdAt := createdAt, updatedAt := updatedAt }

/-- What is written of a record is taken as it is shown. -/
theorem toOption_check (p : Provenance) : (check p.toJson).toOption = p.shown? := by
  obtain ⟨hcreatedBy, hcreatedAt, hupdatedBy, hupdatedAt⟩ := p.lookup_fields
  rw [toJson_eq_obj, check, Checked.record]
  -- The parts are checked side by side, so the record is taken just if every part is.
  simp only [Checked.toOption_seq, Checked.toOption_map]
  rw [Checked.toOption_required hcreatedBy, Checked.toOption_required hcreatedAt,
    Checked.toOption_withDefault hupdatedBy, Checked.toOption_withDefault hupdatedAt, Checked.toOption_time,
    Checked.looseText_ofLoose, Checked.nullable_looseText, Checked.toOption_nullable_time, shown?]
  cases p.createdAt.shown? <;> cases p.updatedAt.mapM Time.DateTime.shown? <;> rfl

/-- The points in time of the record. -/
def times (p : Provenance) : List Time.DateTime := p.createdAt :: p.updatedAt.toList

/-- The record with the offsets of its points in time as fixed ones. -/
def zoneless (p : Provenance) : Provenance :=
  { p with createdAt := p.createdAt.zoneless, updatedAt := p.updatedAt.map Time.DateTime.zoneless }

/-- A record of whole minutes is shown as it is, but for the zones. -/
theorem shown?_of_wholeMinutes {p : Provenance} (h : ∀ t ∈ p.times, t.WholeMinutes) :
    p.shown? = some p.zoneless := by
  have hcreatedAt : p.createdAt.WholeMinutes := h _ (by simp [times])
  have hupdatedAt : p.updatedAt.mapM Time.DateTime.shown? = some (p.updatedAt.map Time.DateTime.zoneless) := by
    cases hupdated : p.updatedAt with
    | none => rfl
    | some t =>
      have ht : t.WholeMinutes := h t (by simp [times, hupdated])
      rw [Option.mapM_some, Time.DateTime.shown?_of_wholeMinutes ht]
      rfl
  rw [shown?, Time.DateTime.shown?_of_wholeMinutes hcreatedAt, Option.bind_some, hupdatedAt, Option.map_some]
  rfl

/-- A record whose points in time are lossless says the same without their zones. -/
theorem same_zoneless {p : Provenance} (h : ∀ t ∈ p.times, t.Lossless) : p.same p.zoneless := by
  have hcreatedAt : p.createdAt.same p.createdAt.zoneless := (h _ (by simp [times])).same_zoneless
  cases hupdated : p.updatedAt with
  | none => simp [same, zoneless, hupdated, hcreatedAt]
  | some t =>
    have ht : t.same t.zoneless := (h t (by simp [times, hupdated])).same_zoneless
    simp [same, zoneless, hupdated, hcreatedAt, ht]

/-- The points in time of a record that is shown as one that says the same are lossless. -/
theorem lossless_of_same {p shown : Provenance} (h : p.shown? = some shown) (hsame : p.same shown) :
    ∀ t ∈ p.times, t.Lossless := by
  obtain ⟨createdAt, hcreatedAt, h⟩ := Option.bind_eq_some_iff.mp h
  obtain ⟨updatedAt, hupdatedAt, rfl⟩ := Option.map_eq_some_iff.mp h
  simp only [same, Bool.and_eq_true] at hsame
  obtain ⟨⟨⟨-, hcreated⟩, -⟩, hupdated⟩ := hsame
  intro t ht
  rcases List.mem_cons.mp ht with rfl | ht
  · exact Time.DateTime.lossless_of_same hcreatedAt hcreated
  · have ht : p.updatedAt = some t := by simpa using ht
    rw [ht] at hupdatedAt hupdated
    obtain ⟨u, hu, rfl⟩ := Option.map_eq_some_iff.mp hupdatedAt
    exact Time.DateTime.lossless_of_same hu hupdated

end Provenance

namespace Details

/-- The fields under which a schema is written. -/
def fields (d : Details) : Checked.Fields :=
  [("schema_key", d.key.toJson), ("description", .ofLoose? d.description), ("schema_state", .str d.state.word),
    ("schema_type", .str (Choice.word d.format)), ("validation_type", .str (Choice.word d.mode)),
    ("schema_meta", d.provenance.toJson), ("attributes", d.attributes.toJson)]

theorem toJson_eq_obj (d : Details) : d.toJson = .obj d.fields := rfl

theorem lookup_fields (d : Details) :
    Json.lookup "schema_key" d.fields = some d.key.toJson ∧
      Json.lookup "description" d.fields = some (.ofLoose? d.description) ∧
      Json.lookup "schema_state" d.fields = some (.str d.state.word) ∧
      Json.lookup "schema_type" d.fields = some (.str (Choice.word d.format)) ∧
      Json.lookup "validation_type" d.fields = some (.str (Choice.word d.mode)) ∧
      Json.lookup "schema_meta" d.fields = some d.provenance.toJson ∧
      Json.lookup "attributes" d.fields = some d.attributes.toJson :=
  ⟨rfl, rfl, rfl, rfl, rfl, rfl, rfl⟩

/-- The schema that the text of a schema shows, if it is one. -/
def shown? (d : Details) : Option Details := d.provenance.shown?.map fun p => { d with provenance := p }

/-- What is written of a schema is taken as it is shown. -/
theorem toOption_check (d : Details) : (check d.toJson).toOption = d.shown? := by
  obtain ⟨hkey, hdescription, hstate, hformat, hmode, hprovenance, hattributes⟩ := d.lookup_fields
  rw [toJson_eq_obj, check, Checked.record]
  simp only [Checked.toOption_seq, Checked.toOption_map]
  rw [Checked.toOption_required hkey, Checked.toOption_withDefault hdescription,
    Checked.toOption_required hstate, Checked.toOption_required hformat, Checked.toOption_withDefault hmode,
    Checked.toOption_required hprovenance, Checked.toOption_required hattributes, d.key.check_toJson,
    Checked.nullable_looseText, State.word, Checked.choice_word, Checked.choice_word, Checked.choice_word,
    Provenance.toOption_check, AttributeSet.check_toJson, shown?]
  cases d.provenance.shown? <;> rfl

/-- No string of the schema holds halves of characters. -/
structure IsText (d : Details) : Prop where
  createdBy : d.provenance.createdBy.IsText
  updatedBy : ∀ t ∈ d.provenance.updatedBy, t.IsText
  description : ∀ t ∈ d.description, t.IsText

theorem plainWithin_toJson {d : Details} (h : d.IsText) : Json.plainWithin Json.Exchange.maxDepth d.toJson := by
  have hloose {depth : Nat} {t : LooseText} (ht : t.IsText) : Json.plainWithin depth (.ofLoose t) := by
    rw [Json.ofLoose, if_pos ht]
    cases depth <;> rfl
  have hloose? {depth : Nat} {t : Option LooseText} (ht : ∀ text ∈ t, text.IsText) :
      Json.plainWithin depth (.ofLoose? t) := by
    cases t with
    | none => cases depth <;> rfl
    | some t => exact hloose (ht t rfl)
  have htext {depth : Nat} (t : Option String) : Json.plainWithin depth (.ofText? t) := by
    cases t <;> cases depth <;> rfl
  have hkey : Json.plainWithin 199 d.key.toJson := rfl
  have hprovenance : Json.plainWithin 199 d.provenance.toJson := by
    simp [Provenance.toJson, Json.plainWithin, Json.plainFields, htext, hloose h.createdBy, hloose? h.updatedBy]
  have hattributes : Json.plainWithin 199 d.attributes.toJson := d.attributes.plainWithin_add_three 196
  rw [toJson_eq_obj, fields, Json.Exchange.maxDepth]
  simp [Json.plainWithin, Json.plainFields, hloose? h.description, hkey, hprovenance, hattributes]

/-- Every string that is written belongs to the text, so one with halves of characters leaves none. -/
theorem isText_of_isText_toJson {d : Details} (h : d.toJson.isText) : d.IsText := by
  have hloose {t : LooseText} (ht : (Json.ofLoose t).isText) : t.IsText := by
    by_contra hhalves
    simp [Json.ofLoose, hhalves, Json.isText] at ht
  have hloose? {t : Option LooseText} (ht : (Json.ofLoose? t).isText) : ∀ text ∈ t, text.IsText := by
    rintro text rfl
    exact hloose ht
  rw [toJson_eq_obj, fields, Json.isText, Provenance.toJson] at h
  simp only [Json.haveTexts, Json.isText, Bool.and_eq_true] at h
  obtain ⟨-, hdescription, -, -, -, ⟨hcreatedBy, -, hupdatedBy, -⟩, -⟩ := h
  exact ⟨hloose hcreatedBy, hloose? hupdatedBy, hloose? hdescription⟩

/-- A schema without halves of characters has a text, and no other. -/
theorem text?_eq_some {d : Details} {text : String} : d.text? = some text ↔ d.IsText ∧ d.text = text := by
  have hiff : d.toJson.isText ↔ d.IsText :=
    ⟨isText_of_isText_toJson, fun h => Json.isText_of_plainWithin _ (plainWithin_toJson h)⟩
  simp [text?, Json.compact?, hiff, Details.text]

/-- **The text of a schema is read back as the schema that it shows**, and is refused if it shows none. -/
theorem toOption_ofText {d : Details} (h : d.IsText) : (ofText d.text).toOption = d.shown? := by
  rw [ofText, text, Json.Exchange.read_compact (plainWithin_toJson h)]
  dsimp only
  rw [← d.toOption_check]
  cases check d.toJson <;> rfl

/-- The schema with the offsets of its points in time as fixed ones. -/
def zoneless (d : Details) : Details := { d with provenance := d.provenance.zoneless }

/-- The schema has a text, and the text says all of it. -/
structure Lossless (d : Details) : Prop where
  isText : d.IsText
  times : ∀ t ∈ d.provenance.times, t.Lossless

theorem Lossless.shown? {d : Details} (h : d.Lossless) : d.shown? = some d.zoneless := by
  rw [Details.shown?, Provenance.shown?_of_wholeMinutes fun t ht => (h.times t ht).wholeMinutes, Option.map_some]
  rfl

theorem Lossless.same_zoneless {d : Details} (h : d.Lossless) : d.same d.zoneless := by
  simp [same, zoneless, Provenance.same_zoneless h.times]

theorem lossless_times_of_same {d shown : Details} (h : d.shown? = some shown) (hsame : d.same shown) :
    ∀ t ∈ d.provenance.times, t.Lossless := by
  obtain ⟨p, hp, rfl⟩ := Option.map_eq_some_iff.mp h
  simp only [same, Bool.and_eq_true] at hsame
  exact Provenance.lossless_of_same hp hsame.1.2

end Details

/-! ## What can be read -/

namespace Checked

variable {α β : Type}

theorem map_eq_accepted {f : α → β} {x : Checked α} {b : β} :
    f <$> x = accepted b ↔ ∃ a, x = accepted a ∧ f a = b := by
  cases x <;> simp

theorem seq_eq_accepted {f : Checked (α → β)} {x : Checked α} {b : β} :
    f <*> x = accepted b ↔ ∃ g a, f = accepted g ∧ x = accepted a ∧ g a = b := by
  cases f <;> cases x <;> simp [Seq.seq, apply]

theorem under_eq_accepted {step : Step} {x : Checked α} {a : α} :
    x.under step = accepted a ↔ x = accepted a := by
  cases x <;> simp [under]

theorem exists_of_required {name : String} {check : Json → Checked α} {fields : Fields} {a : α}
    (h : required name check fields = accepted a) : ∃ value, check value = accepted a := by
  rw [required, under_eq_accepted] at h
  split at h
  · exact ⟨_, h⟩
  · cases h

theorem eq_or_exists_of_withDefault {name : String} {default a : α} {check : Json → Checked α}
    {fields : Fields} (h : withDefault name default check fields = accepted a) :
    a = default ∨ ∃ value, check value = accepted a := by
  unfold withDefault at h
  split at h
  · exact .inr ⟨_, under_eq_accepted.mp h⟩
  · cases h
    exact .inl rfl

/-- What a nullable check takes, unless it is nothing, the check takes. -/
theorem check_of_nullable {check : Json → Checked α} {value : Json} {a : α}
    (h : nullable check value = accepted (some a)) : check value = accepted a := by
  unfold nullable at h
  split at h
  · cases h
  · obtain ⟨b, hb, hab⟩ := map_eq_accepted.mp h
    cases hab
    exact hb

theorem plain_of_time {value : Json} {t : Time.DateTime} (h : time value = accepted t) : t.Plain := by
  unfold time at h
  split at h
  · rename_i hread
    cases h
    exact Time.plain_of_ofJson hread
  · cases h

end Checked

/-- The points in time of a record that is taken are plain. -/
theorem Provenance.plain_of_check {value : Json} {p : Provenance} (h : check value = .accepted p) :
    ∀ t ∈ p.times, t.Plain := by
  unfold check Checked.record at h
  split at h
  · simp only [Checked.seq_eq_accepted, Checked.map_eq_accepted] at h
    obtain ⟨_, updatedAt, ⟨_, updatedBy, ⟨_, createdAt, ⟨createdBy, -, rfl⟩, hcreatedAt, rfl⟩, -, rfl⟩,
      hupdatedAt, rfl⟩ := h
    -- Of the four parts only the two points in time matter, and the second may be left out.
    intro t ht
    rcases List.mem_cons.mp ht with rfl | ht
    · obtain ⟨value, hvalue⟩ := Checked.exists_of_required hcreatedAt
      exact Checked.plain_of_time hvalue
    · have ht : updatedAt = some t := by simpa using ht
      subst ht
      rcases Checked.eq_or_exists_of_withDefault hupdatedAt with hnone | ⟨value, hvalue⟩
      · cases hnone
      · exact Checked.plain_of_time (Checked.check_of_nullable hvalue)
  · cases h

theorem Provenance.zoneless_of_plain {p : Provenance} (h : ∀ t ∈ p.times, t.Plain) : p.zoneless = p := by
  obtain ⟨createdBy, createdAt, updatedBy, updatedAt⟩ := p
  have hcreatedAt : createdAt.Plain := h _ (by simp [times])
  cases updatedAt with
  | none => rw [zoneless, hcreatedAt.zoneless_eq]; rfl
  | some t =>
    have ht : t.Plain := h t (by simp [times])
    rw [zoneless, hcreatedAt.zoneless_eq, Option.map_some, ht.zoneless_eq]

namespace Details

/-- The points in time of a schema that is taken are plain. -/
theorem plain_of_check {value : Json} {d : Details} (h : check value = .accepted d) :
    ∀ t ∈ d.provenance.times, t.Plain := by
  unfold check Checked.record at h
  split at h
  · simp only [Checked.seq_eq_accepted, Checked.map_eq_accepted] at h
    obtain ⟨_, attributes, ⟨_, provenance, ⟨_, mode, ⟨_, format, ⟨_, state, ⟨_, description, ⟨key, -, rfl⟩,
      -, rfl⟩, -, rfl⟩, -, rfl⟩, -, rfl⟩, hprovenance, rfl⟩, -, rfl⟩ := h
    obtain ⟨value, hvalue⟩ := Checked.exists_of_required hprovenance
    exact Provenance.plain_of_check hvalue
  · cases h

theorem zoneless_of_check {value : Json} {d : Details} (h : check value = .accepted d) : d.zoneless = d := by
  rw [zoneless, Provenance.zoneless_of_plain (plain_of_check h)]

/-- **A schema that is taken is in normal form**, since none of its points in time loses anything. -/
theorem check_toJson_of_check {value : Json} {d : Details} (h : check value = .accepted d) :
    check d.toJson = .accepted d := by
  have hwhole : ∀ t ∈ d.provenance.times, t.WholeMinutes := fun t ht => (plain_of_check h t ht).wholeMinutes
  rw [← Checked.toOption_eq_some, toOption_check, shown?, Provenance.shown?_of_wholeMinutes hwhole,
    Option.map_some]
  exact congrArg some (zoneless_of_check h)

/-- **A schema is read back from its text just if it is lossless**: its strings hold no halves of characters, its
offsets are of whole minutes, and its points in time have one meaning in their zones. Then the very schema is read
back, with its offsets as fixed ones, and else nothing that is the same. A schema that is taken from JSON is as it
is read back, and lossless unless its strings hold halves of characters. -/
theorem reads_back_iff (d : Details) :
    ((∃ text read, d.text? = some text ∧ ofText text = .ok read ∧ d.same read) ↔ d.Lossless) ∧
      (d.Lossless → ∃ text, d.text? = some text ∧ ofText text = .ok d.zoneless) ∧
      ∀ value, check value = .accepted d → d.zoneless = d ∧ (d.Lossless ↔ d.IsText) := by
  have hread (h : d.Lossless) : ofText d.text = .ok d.zoneless :=
    eq_ok_of_toOption ((toOption_ofText h.isText).trans h.shown?)
  -- Whatever is read back is what is shown, and it is the same just if nothing was lost.
  refine ⟨⟨?_, fun h => ?_⟩, fun h => ?_, fun value hvalue => ⟨zoneless_of_check hvalue, ?_⟩⟩
  · rintro ⟨text, read, htext, hok, hsame⟩
    obtain ⟨hisText, rfl⟩ := text?_eq_some.mp htext
    refine ⟨hisText, lossless_times_of_same ?_ hsame⟩
    rw [← toOption_ofText hisText, hok]
    rfl
  · exact ⟨d.text, d.zoneless, text?_eq_some.mpr ⟨h.isText, rfl⟩, hread h, h.same_zoneless⟩
  · exact ⟨d.text, text?_eq_some.mpr ⟨h.isText, rfl⟩, hread h⟩
  · exact ⟨Lossless.isText, fun h => ⟨h, fun t ht => (plain_of_check hvalue t ht).lossless⟩⟩

/-- A schema of one attribute that was created by someone at some time. -/
def sampleBy (createdBy : LooseText) (createdAt : Time.DateTime) : Details where
  key := .sample
  description := some "a \"quoted\" naïve 😀 text\n"
  state := .created
  format := .json
  mode := .strict
  provenance := { createdBy, createdAt, updatedBy := none, updatedAt := none }
  attributes := .sample

/-- The start of a session, by a clock with this offset. -/
def startAt (offset : Time.Offset) : Time.DateTime := { Time.sessionStart with offset := some offset }

/-- An hour east. -/
def hour : Time.Offset := ⟨3600000000, by decide⟩

/-- A schema with an offset of an hour is read back. -/
theorem reads_back_hour :
    ∃ text, (sampleBy "ada" (startAt hour)).text? = some text ∧
      ofText text = .ok (sampleBy "ada" (startAt hour)) := by
  have hhour : (startAt hour).Plain := by
    refine ⟨fun offset hoffset => ?_, rfl⟩
    cases hoffset
    exact Dvd.intro 60 rfl
  refine (reads_back_iff _).2.1 ⟨⟨rfl, by simp [sampleBy], ?_⟩, ?_⟩
  · rintro text htext
    cases htext
    rfl
  · intro t ht
    obtain rfl : t = startAt hour := by simpa [sampleBy, Provenance.times] using ht
    exact hhour.lossless

/-- Neither an offset of an hour and half a minute, nor half of a character, nor an hour that clocks show twice is
read back: of the offset the half minute is lost, the character has no text, and of the hour it is not said which
it is. -/
theorem loses_half_minute :
    (∃ read, ofText (sampleBy "ada" (startAt ⟨3630000000, by decide⟩)).text = .ok read ∧
      (sampleBy "ada" (startAt ⟨3630000000, by decide⟩)).same read = false) ∧
      (sampleBy ⟨"", [(0, 0xD800)]⟩ (startAt hour)).text? = none ∧
      ∃ read, ofText (sampleBy "ada" { startAt hour with zone := some ⟨0, some .utc⟩ }).text = .ok read ∧
        (sampleBy "ada" { startAt hour with zone := some ⟨0, some .utc⟩ }).same read = false := by
  have htext (createdAt : Time.DateTime) : (sampleBy "ada" createdAt).IsText := by
    refine ⟨rfl, by simp [sampleBy], ?_⟩
    rintro text htext
    cases htext
    rfl
  refine ⟨⟨sampleBy "ada" (startAt hour), ?_, by decide⟩, rfl, sampleBy "ada" (startAt hour), ?_, by decide⟩
  · exact eq_ok_of_toOption (toOption_ofText (htext _))
  · exact eq_ok_of_toOption (toOption_ofText (htext _))

end Details

end SchemaRegistry
