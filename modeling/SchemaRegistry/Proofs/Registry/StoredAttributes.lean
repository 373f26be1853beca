import SchemaRegistry.Proofs.Json.RoundTrip
import SchemaRegistry.Proofs.Schema.NormalForm
import SchemaRegistry.Registry.Row

/-!
# Attributes survive their storage

The attributes of a schema are stored as JSON text and read back whenever the details of its row are asked
for. The text is read back as the JSON it was written from, and a set of attributes is in normal form, so what
comes back is the set that was stored: the same attributes in the same order.
-/

namespace SchemaRegistry

/-! ## The text is read back -/

theorem Attribute.plainWithin_toJson (a : Attribute) (depth : Nat) :
    Json.plainWithin (depth + 2) a.toJson := by
  have htext (t : Option String) : Json.plainWithin (depth + 1) (.ofText? t) := by
    cases t <;> rfl
  have hvalues : Json.plainWithin (depth + 1) (.ofTexts (a.values.map TrimmedText.text)) := by
    rw [Json.ofTexts, Json.plainWithin, Json.plainItems_iff]
    intro item hitem
    obtain ⟨text, -, rfl⟩ := List.mem_map.mp hitem
    simp [Json.plainWithin]
  rw [Attribute.toJson_eq_obj, Attribute.fields]
  split <;> simp [Json.plainWithin, Json.plainFields, htext, hvalues]

/-- A set of attributes nests three arrays and objects. -/
theorem AttributeSet.plainWithin_add_three (s : AttributeSet) (depth : Nat) :
    Json.plainWithin (depth + 3) s.toJson := by
  rw [AttributeSet.toJson, Json.plainWithin, Json.plainItems_iff]
  intro item hitem
  obtain ⟨a, -, rfl⟩ := List.mem_map.mp hitem
  exact a.plainWithin_toJson depth

theorem AttributeSet.plainWithin_toJson (s : AttributeSet) : Json.plainWithin Json.maxDepth s.toJson :=
  s.plainWithin_add_three 987

/-- The stored text of a set of attributes is read as its JSON. -/
theorem AttributeSet.read_stored (s : AttributeSet) : Json.read s.stored = .ok s.toJson :=
  Json.read_spaced s.plainWithin_toJson

/-! ## Rows -/

/-- A computation with two steps succeeds if both do. -/
theorem bind_eq_ok {ε α β : Type} {x : Except ε α} {f : α → Except ε β} {b : β} :
    x >>= f = .ok b ↔ ∃ a, x = .ok a ∧ f a = .ok b := by
  cases x <;> simp [bind, Except.bind]

/-- Loading a row keeps the row. -/
theorem Row.row_of_load {r : Row} {l : LoadedRow} (h : r.load = .ok l) : l.row = r := by
  unfold Row.load at h
  simp only [bind_eq_ok] at h
  obtain ⟨state, -, format, -, mode, -, createdAt, -, h⟩ := h
  split at h
  all_goals
    obtain ⟨updatedAt, -, h⟩ := bind_eq_ok.mp h
    cases h
    rfl

/-- The details of a loaded row with stored attributes and a key that is one. -/
theorem LoadedRow.details_of_stored {l : LoadedRow} {k : Key} {s : AttributeSet}
    (hkey : Key.ofParts l.row.space l.row.name l.row.version = .accepted k)
    (hattributes : l.row.attributes = s.stored) :
    l.details =
      .ok ⟨k, l.row.description.map .ofText, l.state, l.format, l.mode,
        ⟨l.row.createdBy, l.createdAt, l.row.updatedBy.map .ofText, l.updatedAt⟩, s⟩ := by
  rw [LoadedRow.details, hattributes, s.read_stored]
  simp only [Details.assemble, hkey, s.check_toJson]
  rfl

/-- **Attributes survive their storage.** If the attributes of a row are the stored text of a set, and the
other columns can be read and hold a key, then the row has details, and they hold that very set. The stored
text is printable ASCII. -/
theorem Row.details_of_stored_attributes {r : Row} {l : LoadedRow} {k : Key} {s : AttributeSet}
    (hattributes : r.attributes = s.stored) (hload : r.load = .ok l)
    (hkey : Key.ofParts r.space r.name r.version = .accepted k) :
    l.details =
        .ok ⟨k, r.description.map .ofText, l.state, l.format, l.mode,
          ⟨r.createdBy, l.createdAt, r.updatedBy.map .ofText, l.updatedAt⟩, s⟩ ∧
      ∀ c ∈ r.attributes.toList, Json.IsPrintable c := by
  have hrow := row_of_load hload
  subst hrow
  refine ⟨LoadedRow.details_of_stored hkey hattributes, ?_⟩
  rw [hattributes, AttributeSet.stored, Json.spaced, String.toList_ofList]
  exact Json.isPrintable_write _ s.plainWithin_toJson

/-- An enumeration whose texts need every kind of escape, and an attribute of another kind. -/
def AttributeSet.sample : AttributeSet where
  items :=
    [{ name := ⟨"größe \"\\\n\u0007😀", by decide, by decide⟩
       description := some ⟨"", by decide, by decide⟩
       optional := true
       kind := .enumeration
       values := [⟨"Ω", by decide, by decide⟩, ⟨"", by decide, by decide⟩, ⟨"/", by decide, by decide⟩]
       values_eq_nil := by decide },
     { name := ⟨"id", by decide, by decide⟩
       description := none
       optional := false
       kind := .long
       values := []
       values_eq_nil := by decide }]
  nonempty := by decide
  distinct := by decide

/-- A row that stores the sample under a key that is padded. -/
def Row.sample : Row where
  id := 7
  space := "pay "
  name := " client"
  version := "v1"
  description := none
  state := .known .approved
  format := .known .avro
  mode := .known .strict
  attributes := AttributeSet.sample.stored
  createdBy := "ada"
  createdAt := .clock (.midnight ⟨2026, 1, 1, by decide⟩)
  updatedBy := some "ben"
  updatedAt := some (.raw "2026-01-02")

/-- The key of the sample, and what its columns hold. -/
def Key.sample : Key where
  space := ⟨"pay", by decide, by decide⟩
  name := ⟨"client", by decide, by decide⟩
  version := ⟨"v1", by decide, by decide⟩

/-- The sample comes back from its row. -/
theorem Row.details_of_sample :
    Row.sample.attributes = AttributeSet.sample.stored ∧
      Key.ofParts Row.sample.space Row.sample.name Row.sample.version = .accepted Key.sample ∧
      ∃ l d, Row.sample.load = .ok l ∧ l.details = .ok d ∧ d.attributes = AttributeSet.sample := by
  have hattributes : Row.sample.attributes = AttributeSet.sample.stored := rfl
  have hkey : Key.ofParts Row.sample.space Row.sample.name Row.sample.version =
      .accepted Key.sample := by rfl
  obtain ⟨l, hload⟩ : ∃ l, Row.sample.load = .ok l := ⟨_, rfl⟩
  have hdetails := Row.details_of_stored_attributes hattributes hload hkey
  exact ⟨hattributes, hkey, l, _, hload, hdetails.1, rfl⟩

end SchemaRegistry
