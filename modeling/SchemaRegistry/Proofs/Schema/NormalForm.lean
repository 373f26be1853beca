import SchemaRegistry.Host.Field
import SchemaRegistry.Schema.Attribute
import SchemaRegistry.Schema.Key
import SchemaRegistry.Schema.Registration

/-!
# Accepted values are in normal form

A value that a check has made is written as JSON that the same check takes again, and takes as the same value.
A trimmed text stays as it is when it is trimmed once more, so its length is still within its limits; names
that were distinct still are.
-/

namespace SchemaRegistry

/-! ## Scalars and lists -/

namespace Checked

variable {α : Type}

theorem trimmed_text {limits : Limits} (t : TrimmedText limits) :
    trimmed limits (.str t.text) = accepted t := by
  obtain ⟨text, fits, htrim⟩ := t
  simp [trimmed, Checked.text, andThen, htrim, fits]

theorem nullable_trimmed_text {limits : Limits} (t : Option (TrimmedText limits)) :
    nullable (trimmed limits) (.ofText? (t.map TrimmedText.text)) = accepted t := by
  cases t with
  | none => rfl
  | some t =>
    rw [Option.map_some, Json.ofText?, nullable, trimmed_text, map_accepted]
    simp

theorem bounded_text {limits : Limits} (t : BoundedText limits) :
    bounded limits (.str t.text) = accepted t := by
  obtain ⟨text, fits⟩ := t
  rw [bounded, Checked.text, andThen, dif_pos fits]

theorem nullable_bounded_text {limits : Limits} (t : Option (BoundedText limits)) :
    nullable (bounded limits) (.ofText? (t.map BoundedText.text)) = accepted t := by
  cases t with
  | none => rfl
  | some t =>
    rw [Option.map_some, Json.ofText?, nullable, bounded_text, map_accepted]
    simp

theorem choice_word [Choice α] (a : α) : choice α (.str (Choice.word a)) = accepted a := by
  simp [choice]

/-- Items that are each taken are taken together, in their order. -/
theorem collect_map {check : Json → Checked α} {write : α → Json}
    (h : ∀ a, check (write a) = accepted a) (values : List α) (index : Nat) :
    collect check index (values.map write) = (values, []) := by
  induction values generalizing index with
  | nil => rfl
  | cons value values ih => simp [collect, ih, h, under]

theorem tuple_map {check : Json → Checked α} {write : α → Json}
    (h : ∀ a, check (write a) = accepted a) (values : List α) :
    tuple check (.arr (values.map write)) = accepted values := by
  simp [tuple, collect_map h]

theorem list_map {check : Json → Checked α} {write : α → Json}
    (h : ∀ a, check (write a) = accepted a) (values : List α) :
    list check (.arr (values.map write)) = accepted values := by
  rw [list, collect_map h]

theorem nonemptyTuple_map {check : Json → Checked α} {write : α → Json}
    (h : ∀ a, check (write a) = accepted a) (values : List α) (hvalues : values ≠ []) :
    nonemptyTuple check (.arr (values.map write)) = accepted ⟨values, hvalues⟩ := by
  cases values with
  | nil => exact absurd rfl hvalues
  | cons value values =>
    rw [nonemptyTuple, collect_map h]

/-! ## Fields -/

/-- A field that is there and is taken. -/
theorem required_of_lookup {name : String} {check : Json → Checked α} {fields : Fields} {value : Json}
    {a : α} (hlookup : Json.lookup name fields = some value) (hcheck : check value = accepted a) :
    required name check fields = accepted a := by
  rw [required, hlookup]
  simp [hcheck, under]

theorem withDefault_of_lookup {name : String} {default a : α} {check : Json → Checked α}
    {fields : Fields} {value : Json} (hlookup : Json.lookup name fields = some value)
    (hcheck : check value = accepted a) : withDefault name default check fields = accepted a := by
  rw [withDefault, hlookup]
  simp [hcheck, under]

end Checked

/-! ## Keys -/

/-- Each part of a key is found under its name. -/
theorem Key.lookup_fieldsOf (space name version : String) :
    Json.lookup "namespace" (Key.fieldsOf space name version) = some (.str space) ∧
      Json.lookup "schema_name" (Key.fieldsOf space name version) = some (.str name) ∧
      Json.lookup "version" (Key.fieldsOf space name version) = some (.str version) :=
  ⟨rfl, rfl, rfl⟩

/-- The parts of a key make that key. -/
theorem Key.ofParts_text (k : Key) :
    Key.ofParts k.space.text k.name.text k.version.text = .accepted k := by
  obtain ⟨hspace, hname, hversion⟩ := Key.lookup_fieldsOf k.space.text k.name.text k.version.text
  rw [Key.ofParts, Key.checkFields, Checked.required_of_lookup hspace (Checked.trimmed_text k.space),
    Checked.required_of_lookup hname (Checked.trimmed_text k.name),
    Checked.required_of_lookup hversion (Checked.trimmed_text k.version)]
  rfl

/-! ## Attributes -/

namespace Attribute

/-- The fields under which an attribute is written. -/
def fields (a : Attribute) : Checked.Fields :=
  [("name", .str a.name.text), ("description", .ofText? (a.description.map TrimmedText.text)),
    ("optional", .bool a.optional), ("type", .str a.kind.word)] ++
  if a.kind = .enumeration then [("values", .ofTexts (a.values.map TrimmedText.text))] else []

theorem toJson_eq_obj (a : Attribute) : a.toJson = .obj a.fields := rfl

/-- The four fields that every attribute has are found, whether values follow or not. -/
theorem lookup_fields (a : Attribute) :
    Json.lookup "name" a.fields = some (.str a.name.text) ∧
      Json.lookup "description" a.fields =
        some (.ofText? (a.description.map TrimmedText.text)) ∧
      Json.lookup "optional" a.fields = some (.bool a.optional) ∧
      Json.lookup "type" a.fields = some (.str a.kind.word) := by
  unfold fields
  split <;> exact ⟨rfl, rfl, rfl, rfl⟩

/-- The values of an enumeration are read back, and no other attribute has any. -/
theorem checkValues_fields (a : Attribute) :
    checkValues a.kind a.fields = .accepted ⟨a.values, a.values_eq_nil⟩ := by
  unfold checkValues
  split
  case isTrue henum =>
    have hlookup : Json.lookup "values" a.fields =
        some (.arr (a.values.map fun v => .str v.text)) := by
      unfold fields
      rw [if_pos henum, Json.ofTexts, List.map_map]
      rfl
    rw [Checked.withDefault_of_lookup hlookup (Checked.tuple_map Checked.trimmed_text a.values)]
    rfl
  case isFalse hother =>
    congr 1
    exact Subtype.ext (a.values_eq_nil hother).symm

/-- **An attribute is in normal form**: checking what is written of it makes it again. -/
theorem check_toJson (a : Attribute) : check a.toJson = .accepted a := by
  obtain ⟨hname, hdescription, hoptional, htype⟩ := a.lookup_fields
  have htag : kindOfTag? (.str a.kind.word) = some a.kind := Choice.ofWord?_word a.kind
  rw [toJson_eq_obj, check, htype]
  simp only [htag]
  rw [checkFields, Checked.required_of_lookup hname (Checked.trimmed_text a.name),
    Checked.withDefault_of_lookup hdescription (Checked.nullable_trimmed_text a.description),
    Checked.withDefault_of_lookup hoptional (a := a.optional) rfl, checkValues_fields]
  rfl

end Attribute

/-- **A set of attributes is in normal form**, its order included. -/
theorem AttributeSet.check_toJson (s : AttributeSet) : AttributeSet.check s.toJson = .accepted s := by
  rw [AttributeSet.check, toJson,
    Checked.nonemptyTuple_map Attribute.check_toJson s.items s.nonempty, Checked.andThen, ofItems,
    dif_pos (repeatedNames_eq_nil_iff.mpr s.distinct)]

/-! ## Requests -/

theorem Key.check_toJson (k : Key) : Key.check k.toJson = .accepted k := k.ofParts_text

theorem HostField.check_toJson (f : HostField) : HostField.check f.toJson = .accepted f := by
  rw [HostField.check, toJson, Checked.record, Checked.required_of_lookup rfl (Checked.bounded_text f.name),
    Checked.required_of_lookup rfl (Checked.choice_word f.category)]
  rfl

theorem HostType.check_toJson (t : HostType) : HostType.check t.toJson = .accepted t := by
  rw [HostType.check, toJson, Checked.record,
    Checked.required_of_lookup rfl (Checked.list_map HostField.check_toJson t.fields),
    Checked.withDefault_of_lookup rfl (show Checked.flag (.bool t.failFast) = .accepted t.failFast from rfl)]
  rfl

theorem StateChange.check_toJson (c : StateChange) : StateChange.check c.toJson = .accepted c := by
  rw [StateChange.check, toJson, Checked.record,
    Checked.required_of_lookup rfl (Checked.bounded_text c.updatedBy)]
  rfl

/-- **A registration is in normal form**: whatever was left to a default is written out. -/
theorem Registration.check_toJson (r : Registration) : Registration.check r.toJson = .accepted r := by
  rw [Registration.check, toJson, Checked.record,
    Checked.required_of_lookup rfl r.key.check_toJson,
    Checked.withDefault_of_lookup rfl (Checked.nullable_bounded_text r.description),
    Checked.withDefault_of_lookup rfl (Checked.choice_word r.format),
    Checked.withDefault_of_lookup rfl (Checked.choice_word r.mode),
    Checked.required_of_lookup rfl r.attributes.check_toJson,
    Checked.required_of_lookup rfl (Checked.bounded_text r.createdBy)]
  rfl

end SchemaRegistry
