import SchemaRegistry.Proofs.Registry.StoredAttributes
import SchemaRegistry.Registry.Table

/-!
# Entries

An entry is what the registry knows of a schema once one looks past its row: the registration, when it was
made, and the ruling on it, if there is one. `Entry.row` is the row that holds an entry under a number. Such a
row can be loaded, its details are those of the entry, and it holds no other entry.
-/

namespace SchemaRegistry

/-- A decision that was made, by whom and when. -/
structure Ruling where
  decision : Decision
  updatedBy : String
  updatedAt : Time.DateTime
deriving DecidableEq, Repr

/-- The ruling that is stored of a decision: the offset of its time is not kept. -/
def Ruling.made (d : Decision) (updatedBy : String) (now : Time.DateTime) : Ruling :=
  ⟨d, updatedBy, now.dropOffset⟩

/-- What is known of a registered schema. -/
structure Entry where
  registration : Registration
  createdAt : Time.DateTime
  ruling : Option Ruling
deriving DecidableEq, Repr

/-- No decision leads back to where decisions start from. -/
theorem Decision.state_ne_created (d : Decision) : d.state ≠ .created := by
  cases d <;> simp [state]

namespace Entry

/-- The key of the schema. -/
def key (e : Entry) : Key := e.registration.key

/-- The state of the schema: that of its ruling, if there is one. -/
def state (e : Entry) : State := (e.ruling.map fun r => r.decision.state).getD .created

/-- The entry with a ruling. -/
def rule (e : Entry) (r : Ruling) : Entry := { e with ruling := some r }

/-- The details of the schema. -/
def details (e : Entry) : Details where
  key := e.registration.key
  description := (e.registration.description.map BoundedText.text).map .ofText
  state := e.state
  format := e.registration.format
  mode := e.registration.mode
  provenance :=
    { createdBy := e.registration.createdBy.text
      createdAt := e.createdAt
      updatedBy := (e.ruling.map Ruling.updatedBy).map .ofText
      updatedAt := e.ruling.map Ruling.updatedAt }
  attributes := e.registration.attributes

/-- The row that holds an entry under a number. -/
def row (id : Int) (e : Entry) : Row where
  id := id
  space := e.registration.key.space.text
  name := e.registration.key.name.text
  version := e.registration.key.version.text
  description := e.registration.description.map BoundedText.text
  state := .known e.state
  format := .known e.registration.format
  mode := .known e.registration.mode
  attributes := e.registration.attributes.stored
  createdBy := e.registration.createdBy.text
  createdAt := .clock e.createdAt
  updatedBy := e.ruling.map Ruling.updatedBy
  updatedAt := e.ruling.map fun r => .clock r.updatedAt

/-- A row that holds an entry, loaded. -/
def loaded (id : Int) (e : Entry) : LoadedRow where
  row := e.row id
  state := e.state
  format := e.registration.format
  mode := e.registration.mode
  createdAt := e.createdAt
  updatedAt := e.ruling.map Ruling.updatedAt

@[simp]
theorem row_id (id : Int) (e : Entry) : (e.row id).id = id := rfl

@[simp]
theorem loaded_row (id : Int) (e : Entry) : (e.loaded id).row = e.row id := rfl

@[simp]
theorem loaded_state (id : Int) (e : Entry) : (e.loaded id).state = e.state := rfl

@[simp]
theorem rule_key (e : Entry) (r : Ruling) : (e.rule r).key = e.key := rfl

/-- An entry without a ruling is in the state that decisions start from, and only such an entry is. -/
theorem state_eq_created {e : Entry} : e.state = .created ↔ e.ruling = none := by
  obtain ⟨registration, createdAt, ruling⟩ := e
  cases ruling with
  | none => simp [state]
  | some r => simpa [state] using r.decision.state_ne_created

theorem state_of_ruling {e : Entry} {r : Ruling} (h : e.ruling = some r) :
    e.state = r.decision.state := by
  simp [state, h]

/-- A row that holds an entry can be loaded. -/
@[simp]
theorem load_row (id : Int) (e : Entry) : (e.row id).load = .ok (e.loaded id) := by
  obtain ⟨registration, createdAt, ruling⟩ := e
  cases ruling <;> rfl

/-- The details of a row that holds an entry are those of the entry. -/
@[simp]
theorem details_loaded (id : Int) (e : Entry) : (e.loaded id).details = .ok e.details :=
  LoadedRow.details_of_stored e.registration.key.ofParts_text rfl

/-- What becomes of an entry: it stays, or it gets a ruling if it has none. -/
inductive Becomes (e : Entry) : Entry → Prop
  | stays : Becomes e e
  | ruled (hopen : e.ruling = none) (r : Ruling) : Becomes e (e.rule r)

theorem Becomes.registration_eq {e e' : Entry} (h : e.Becomes e') :
    e'.registration = e.registration := by
  cases h <;> rfl

theorem Becomes.key_eq {e e' : Entry} (h : e.Becomes e') : e'.key = e.key :=
  congrArg Registration.key h.registration_eq

theorem Becomes.createdAt_eq {e e' : Entry} (h : e.Becomes e') : e'.createdAt = e.createdAt := by
  cases h <;> rfl

/-- A ruling stays. -/
theorem Becomes.ruling_eq {e e' : Entry} (h : e.Becomes e') {r : Ruling} (hr : e.ruling = some r) :
    e'.ruling = some r := by
  cases h with
  | stays => exact hr
  | ruled hopen => cases hopen.symm.trans hr

/-- An entry with a ruling stays as it is. -/
theorem Becomes.eq_of_ruling {e e' : Entry} (h : e.Becomes e') (hruling : e.ruling ≠ none) : e' = e := by
  cases h with
  | stays => rfl
  | ruled hopen => exact absurd hopen hruling

end Entry

/-! ## A row holds one entry -/

theorem TrimmedText.text_injective {limits : Limits} :
    Function.Injective (@TrimmedText.text limits) := by
  rintro ⟨a, _, _⟩ ⟨b, _, _⟩ h
  simpa using h

theorem BoundedText.text_injective {limits : Limits} :
    Function.Injective (@BoundedText.text limits) := by
  rintro ⟨a, _⟩ ⟨b, _⟩ h
  simpa using h

/-- The stored text tells sets of attributes apart. -/
theorem AttributeSet.stored_injective : Function.Injective AttributeSet.stored := by
  intro s s' h
  have hjson : s.toJson = s'.toJson := by
    have hread := s.read_stored
    rw [h, s'.read_stored] at hread
    exact (Except.ok.inj hread).symm
  have hcheck := s.check_toJson
  rw [hjson, s'.check_toJson] at hcheck
  exact (Checked.accepted.inj hcheck).symm

/-- The state that a decision leads to tells decisions apart. -/
theorem Decision.state_injective : Function.Injective Decision.state := by
  intro d d' h
  cases d <;> cases d' <;> simp_all [Decision.state]

/-- The parts of a key tell keys apart. -/
theorem Key.ext_text {k k' : Key} (hspace : k.space.text = k'.space.text)
    (hname : k.name.text = k'.name.text) (hversion : k.version.text = k'.version.text) : k = k' := by
  obtain ⟨space, name, version⟩ := k
  obtain ⟨space', name', version'⟩ := k'
  obtain rfl := TrimmedText.text_injective hspace
  obtain rfl := TrimmedText.text_injective hname
  obtain rfl := TrimmedText.text_injective hversion
  rfl

namespace Entry

/-- A row has the key of its entry and no other. -/
theorem hasKey_row {id : Int} {e : Entry} {k : Key} : (e.row id).hasKey k ↔ e.key = k := by
  simp only [Row.hasKey, row, Bool.and_eq_true, beq_iff_eq]
  constructor
  · rintro ⟨⟨hspace, hname⟩, hversion⟩
    exact Key.ext_text hspace hname hversion
  · rintro rfl
    exact ⟨⟨rfl, rfl⟩, rfl⟩

/-- What a row says of its ruling tells rulings apart. -/
theorem ruling_eq {r r' : Option Ruling}
    (hstate : (r.map fun r => r.decision.state).getD .created =
      (r'.map fun r => r.decision.state).getD .created)
    (hby : r.map Ruling.updatedBy = r'.map Ruling.updatedBy)
    (hat : (r.map fun r => StoredTime.clock r.updatedAt) =
      r'.map fun r => StoredTime.clock r.updatedAt) : r = r' := by
  cases r with
  | none =>
    cases r' with
    | none => rfl
    | some r' => simp at hby
  | some r =>
    cases r' with
    | none => simp at hby
    | some r' =>
      obtain ⟨d, updatedBy, updatedAt⟩ := r
      obtain ⟨d', updatedBy', updatedAt'⟩ := r'
      obtain rfl := Decision.state_injective hstate
      obtain rfl := Option.some.inj hby
      obtain rfl := StoredTime.clock.inj (Option.some.inj hat)
      rfl

/-- A row holds one entry under one number. -/
theorem row_injective {id id' : Int} {e e' : Entry} (h : e.row id = e'.row id') :
    id = id' ∧ e = e' := by
  obtain ⟨⟨key, description, format, mode, createdBy, attributes⟩, createdAt, ruling⟩ := e
  obtain ⟨⟨key', description', format', mode', createdBy', attributes'⟩, createdAt', ruling'⟩ := e'
  simp only [row, Row.mk.injEq] at h
  obtain ⟨hid, hspace, hname, hversion, hdescription, hstate, hformat, hmode, hattributes, hcreatedBy,
    hcreatedAt, hupdatedBy, hupdatedAt⟩ := h
  -- Each column tells the part of the entry from which it was written.
  obtain rfl := Key.ext_text hspace hname hversion
  obtain rfl := Option.map_injective BoundedText.text_injective hdescription
  obtain rfl := Stored.known.inj hformat
  obtain rfl := Stored.known.inj hmode
  obtain rfl := AttributeSet.stored_injective hattributes
  obtain rfl := BoundedText.text_injective hcreatedBy
  obtain rfl := StoredTime.clock.inj hcreatedAt
  obtain rfl := ruling_eq (Stored.known.inj hstate) hupdatedBy hupdatedAt
  exact ⟨hid, rfl⟩

end Entry

end SchemaRegistry
