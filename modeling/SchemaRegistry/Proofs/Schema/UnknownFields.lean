import SchemaRegistry.Host.Field
import SchemaRegistry.Proofs.Schema.Alterations
import SchemaRegistry.Schema.Details

/-!
# Unknown fields

An object that is read as a model may have fields that the model does not declare. `Widens` says of each model
which values come of a value by such fields, put anywhere into any of the objects that are read as a model on
the way down: the value itself, its key, its record of who did what, each of its attributes, each host field.
What an attribute declares depends on its tag, so that the values of an enumeration are unknown to all other
kinds. No model tells the two values apart: it takes both as the same, or refuses both for the same faults.
-/

namespace SchemaRegistry

open Checked

/-! ## Values with more fields -/

/-- An object with the fields of another and with some that the model does not declare. What is declared may
gain fields in turn, as `part` says. -/
def Model.Widens (model : Model) (part : String → Json → Json → Prop) : Json → Json → Prop :=
  OnObject (AlterFields (· ∈ model.fieldNames) part)

/-- A key with further fields. -/
def Key.Widens : Json → Json → Prop := Model.key.Widens fun _ => Eq

/-- A record of who did what, with further fields. -/
def Provenance.Widens : Json → Json → Prop := Model.provenance.Widens fun _ => Eq

/-- A host field with further fields. -/
def HostField.Widens : Json → Json → Prop := Model.hostField.Widens fun _ => Eq

/-- The names that the variant for a kind declares. -/
def Kind.fieldNames (k : Kind) : List String :=
  Model.variant.fieldNames ++ if k = .enumeration then ["values"] else []

/-- The names that are declared for an attribute with these fields. If its tag selects no variant, there is only
the tag. -/
def Attribute.knownNames (fields : Fields) : List String :=
  match selected? fields with
  | some kind => kind.fieldNames
  | none => ["type"]

/-- An attribute with further fields. -/
def Attribute.Widens : Json → Json → Prop :=
  OnObject fun before after => AlterFields (· ∈ knownNames before) (fun _ => Eq) before after

/-- A set of attributes, each of which may have further fields. -/
def AttributeSet.Widens : Json → Json → Prop := OnArray Attribute.Widens

/-- A host type with further fields in itself and in its fields. -/
def HostType.Widens : Json → Json → Prop :=
  Model.hostType.Widens fun
    | "fields" => OnArray HostField.Widens
    | _ => Eq

/-- A registration with further fields in itself, its key and its attributes. -/
def Registration.Widens : Json → Json → Prop :=
  Model.registration.Widens fun
    | "schema_key" => Key.Widens
    | "attributes" => AttributeSet.Widens
    | _ => Eq

/-- A schema with further fields in itself, its key, its record of who did what and its attributes. -/
def Details.Widens : Json → Json → Prop :=
  Model.details.Widens fun
    | "schema_key" => Key.Widens
    | "schema_meta" => Provenance.Widens
    | "attributes" => AttributeSet.Widens
    | _ => Eq

/-! ## Parts -/

theorem Key.ignores_widens : Ignores Key.check Key.Widens :=
  Key.ignores_of_parts fun _ hname => ⟨hname, ignores_eq _⟩

theorem Provenance.ignores_widens : Ignores Provenance.check Provenance.Widens :=
  ((((((ignores_eq _).required (by decide)).map _).seq ((ignores_eq _).required (by decide))).seq
    ((ignores_eq _).withDefault (by decide) none)).seq
    ((ignores_eq _).withDefault (by decide) none)).record .provenance

theorem HostField.ignores_widens : Ignores HostField.check HostField.Widens :=
  ((((ignores_eq _).required (by decide)).map _).seq ((ignores_eq _).required (by decide))).record .hostField

/-- The tag of an attribute is always known. -/
theorem Attribute.type_mem_knownNames (fields : Fields) : "type" ∈ knownNames fields := by
  unfold knownNames
  split
  · exact List.mem_append_left _ (by decide)
  · exact List.mem_singleton_self _

/-- No field is looked up that the kind of the attribute does not declare. -/
theorem Attribute.ignores_widens : Ignores Attribute.check Attribute.Widens := by
  refine ignores_of_selected (fun before after haltered => ?_) fun before after kind haltered hselected => ?_
  · exact haltered.lookup_eq (type_mem_knownNames before) rfl
  · have hknown : knownNames before = kind.fieldNames := by rw [knownNames, hselected]
    rw [hknown] at haltered
    have hcommon : ∀ name ∈ Model.variant.fieldNames, name ∈ kind.fieldNames := fun _ hname =>
      List.mem_append_left _ hname
    refine ignores_checkFields ⟨hcommon _ (by decide), ignores_eq _⟩ ⟨hcommon _ (by decide), ignores_eq _⟩
      ⟨hcommon _ (by decide), ignores_eq _⟩ (fun hkind => ⟨?_, ignores_eq _⟩) before after haltered
    rw [hkind]
    decide

theorem AttributeSet.ignores_widens : Ignores AttributeSet.check AttributeSet.Widens :=
  Attribute.ignores_widens.nonemptyTuple.andThen _

/-! ## Models -/

theorem HostType.ignores_widens : Ignores HostType.check HostType.Widens := by
  have hfields : Ignores (list HostField.check) (OnArray HostField.Widens) := HostField.ignores_widens.list
  exact (((hfields.required (by decide)).map _).seq
    ((ignores_eq _).withDefault (by decide) false)).record .hostType

theorem Registration.ignores_widens : Ignores Registration.check Registration.Widens := by
  refine ignores_of_parts (fun _ hname => hname) Key.ignores_widens AttributeSet.ignores_widens
    fun name hkey hattributes => ?_
  split <;> first | contradiction | rfl

theorem Details.ignores_widens : Ignores Details.check Details.Widens :=
  ((((((((Key.ignores_widens.required (by decide)).map _).seq
    ((ignores_eq _).withDefault (by decide) none)).seq
    ((ignores_eq _).required (by decide))).seq
    ((ignores_eq _).required (by decide))).seq
    ((ignores_eq _).withDefault (by decide) Mode.matching)).seq
    (Provenance.ignores_widens.required (by decide))).seq
    (AttributeSet.ignores_widens.required (by decide))).record .details

/-- **Unknown fields never matter.** A schema, a registration and a host type are taken as the same value, or
refused for the same faults, whatever fields are put into them and their parts that these do not declare. -/
theorem unknown_fields_ignored :
    (∀ value widened, Details.Widens value widened → Details.check widened = Details.check value) ∧
      (∀ value widened, Registration.Widens value widened →
        Registration.check widened = Registration.check value) ∧
      ∀ value widened, HostType.Widens value widened → HostType.check widened = HostType.check value :=
  ⟨Details.ignores_widens, Registration.ignores_widens, HostType.ignores_widens⟩

/-- A field that no model declares. -/
def sampleNote : Fields := [("note", .arr [.illFormed ⟨"a", [(1, 0xD800)]⟩])]

/-- A schema without a state, and with a value of an enumeration that is no text. Each object has `more` at its
end. -/
def Details.sampleWith (more : Fields) : Json :=
  .obj
    ([("schema_key", .obj (Key.fieldsOf "geo" "street" "1" ++ more)), ("schema_type", .str "AVRO"),
      ("schema_meta", .obj ([("created_by", .str "ada"), ("created_at", .int 0)] ++ more)),
      ("attributes", .arr
        [.obj ([("type", .str "ENUM"), ("name", .str "side"), ("values", .arr [.int 5])] ++ more)])] ++ more)

/-- A registration of one text. The attribute has `values` before its own fields. -/
def Registration.sampleWith (values more : Fields) : Json :=
  .obj
    ([("schema_key", .obj (Key.fieldsOf "geo" "street" "1" ++ more)),
      ("attributes", .arr [.obj (values ++ [("type", .str "STRING"), ("name", .str "side")])]),
      ("created_by", .str "ada")] ++ more)

/-- A host type of one field. -/
def HostType.sampleWith (more : Fields) : Json :=
  .obj ([("fields", .arr [.obj ([("name", .str "side"), ("category", .str "STRING")] ++ more)])] ++ more)

/-- The schema is refused for two faults, the registration and the host type are taken, with further fields as
without. Of these `values` would be read in an enumeration, and be refused. -/
theorem unknown_fields_ignored_note :
    Details.check (Details.sampleWith sampleNote) = Details.check (Details.sampleWith []) ∧
      (Details.check (Details.sampleWith [])).refusals.map Refusal.cause =
        [.missing, .notText, .noItems] ∧
      Registration.check (Registration.sampleWith [("values", .int 5)] sampleNote) =
        Registration.check (Registration.sampleWith [] []) ∧
      (Registration.check (Registration.sampleWith [] [])).toOption.isSome ∧
      HostType.check (HostType.sampleWith sampleNote) = HostType.check (HostType.sampleWith []) ∧
      (HostType.check (HostType.sampleWith [])).toOption.isSome := by
  obtain ⟨hdetails, hregistration, hhostType⟩ := unknown_fields_ignored
  have hkey : Key.Widens (.obj (Key.fieldsOf "geo" "street" "1"))
      (.obj (Key.fieldsOf "geo" "street" "1" ++ sampleNote)) :=
    .object (.keep rfl (.keep rfl (.keep rfl (.insert (by decide) .nil))))
  refine ⟨hdetails _ _ (.object ?_), rfl, hregistration _ _ (.object ?_), rfl, hhostType _ _ (.object ?_), rfl⟩
  · have hprovenance : Provenance.Widens (.obj [("created_by", .str "ada"), ("created_at", .int 0)])
        (.obj ([("created_by", .str "ada"), ("created_at", .int 0)] ++ sampleNote)) :=
      .object (.keep rfl (.keep rfl (.insert (by decide) .nil)))
    exact .keep hkey (.keep rfl (.keep hprovenance (.keep
      (.array (.cons (.object (.keep rfl (.keep rfl (.keep rfl (.insert (by decide) .nil))))) .nil))
      (.insert (by decide) .nil))))
  · exact .keep hkey (.keep
      (.array (.cons (.object (.insert (by decide) (.keep rfl (.keep rfl .nil)))) .nil))
      (.keep rfl (.insert (by decide) .nil)))
  · exact .keep
      (.array (.cons (.object (.keep rfl (.keep rfl (.insert (by decide) .nil)))) .nil))
      (.insert (by decide) .nil)

end SchemaRegistry
