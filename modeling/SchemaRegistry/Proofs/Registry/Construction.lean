import SchemaRegistry.Proofs.Registry.StoredVerdict
import SchemaRegistry.Proofs.Schema.DetailsText
import SchemaRegistry.Proofs.Schema.Padding

/-!
# Requests name normal forms

Whatever a model takes is put into a normal form: what is written of it is taken again, as the same value. A key
and an attribute are the same with white space around their texts and without. So two registrations whose keys
differ in nothing else are registrations of one schema, and once the first of them has succeeded the second is
refused, however the table has evolved in between.
-/

namespace SchemaRegistry

/-! ## Rereading -/

/-- What a check takes is taken again under another name. -/
theorem Checked.map_eq_accepted_again {α β : Type} {f : α → β} {check : Json → Checked α} {write : β → Json}
    {value : Json} {b : β} (hnormal : ∀ a, check value = accepted a → check (write (f a)) = accepted a)
    (h : f <$> check value = accepted b) : f <$> check (write b) = accepted b := by
  obtain ⟨a, ha, rfl⟩ := map_eq_accepted.mp h
  rw [hnormal a ha, map_accepted]

/-- A record that is taken is taken again. -/
theorem Record.check_toJson {model : Model} {value : Json} {r : Record}
    (h : Record.check model value = .accepted r) : Record.check model r.toJson = .accepted r := by
  cases model with
  | key => exact Checked.map_eq_accepted_again (fun k _ => k.ofParts_text) h
  | variant => exact Checked.map_eq_accepted_again (fun a _ => a.check_toJson) h
  | hostField => exact Checked.map_eq_accepted_again (fun f _ => f.check_toJson) h
  | hostType => exact Checked.map_eq_accepted_again (fun t _ => t.check_toJson) h
  | stateChange => exact Checked.map_eq_accepted_again (fun c _ => c.check_toJson) h
  | registration => exact Checked.map_eq_accepted_again (fun r _ => r.check_toJson) h
  | provenance | details => exact Checked.map_eq_accepted_again (fun _ => Details.check_toJson_of_check) h

/-! ## The key of a registration -/

/-- The key that a registration gives, before it is checked. -/
def Registration.givenKey? : Json → Option Json
  | .obj fields => Json.lookup "schema_key" fields
  | _ => none

theorem Checked.check_of_required {α : Type} {name : String} {check : Json → Checked α} {fields : Fields} {a : α}
    {value : Json} (hlookup : Json.lookup name fields = some value)
    (h : required name check fields = accepted a) : check value = accepted a := by
  rwa [required, hlookup, under_eq_accepted] at h

/-- The key of a registration that is taken is what is made of the key that it gives. -/
theorem Registration.check_givenKey {request key : Json} {r : Registration} (h : check request = .accepted r)
    (hkey : givenKey? request = some key) : Key.check key = .accepted r.key := by
  unfold givenKey? at hkey
  split at hkey
  · unfold check Checked.record at h
    simp only [Checked.seq_eq_accepted, Checked.map_eq_accepted] at h
    obtain ⟨_, _, ⟨_, _, ⟨_, _, ⟨_, _, ⟨_, _, ⟨key, hkeyCheck, rfl⟩, -, rfl⟩, -, rfl⟩, -, rfl⟩, -, rfl⟩, -,
      rfl⟩ := h
    exact Checked.check_of_required hkey hkeyCheck
  · cases hkey

/-- Two registrations give one key, each with its own white space around the parts. All else may differ. -/
def Registration.SameKeyPadded (request₁ request₂ : Json) : Prop :=
  ∃ key key₁ key₂, Key.Pads key key₁ ∧ Key.Pads key key₂ ∧
    givenKey? request₁ = some key₁ ∧ givenKey? request₂ = some key₂

/-- Registrations that give one key are registrations of one schema. -/
theorem Registration.key_eq_of_sameKeyPadded {request₁ request₂ : Json} {r₁ r₂ : Registration}
    (h : SameKeyPadded request₁ request₂) (h₁ : check request₁ = .accepted r₁)
    (h₂ : check request₂ = .accepted r₂) : r₂.key = r₁.key := by
  obtain ⟨key, key₁, key₂, hpads₁, hpads₂, hkey₁, hkey₂⟩ := h
  have hcheck₁ : Key.check key = .accepted r₁.key := by
    rw [← Key.ignores_pads _ _ hpads₁]
    exact check_givenKey h₁ hkey₁
  have hcheck₂ : Key.check key = .accepted r₂.key := by
    rw [← Key.ignores_pads _ _ hpads₂]
    exact check_givenKey h₂ hkey₂
  rw [hcheck₁] at hcheck₂
  exact (Checked.accepted.inj hcheck₂).symm

namespace Registry

variable {s : Stage} {now : Time.Reading} {between : Interlude} {r : Registration} {d : Details}

/-- A key that is stored cannot be registered, and the attempt changes nothing. -/
theorem create_of_stores {r' : Registration} (h : s.table.Stores r) (hkey : r'.key = r.key) (now : Time.Reading)
    (between : Interlude) : create s now between r' = reading s (.error (taken r'.key)) := by
  obtain ⟨id, e, rfl, hrow⟩ := h
  rw [← hkey] at hrow
  have hfind : s.table.find? r'.key = .ok (some (e.loaded id)) := by
    rw [Table.find?, hrow]
    dsimp only
    rw [e.load_row]
    rfl
  simp only [create, hfind]

end Registry

/-! ## Construction -/

/-- What becomes of the values that the models take. -/
structure NormalForms : Prop where
  /-- What is written of a value that a model takes is taken again, as the same value. -/
  reread : ∀ (model : Model) (value : Json) (r : Record),
    Record.check model value = .accepted r → Record.check model r.toJson = .accepted r
  /-- White space around the parts of a key is ignored, -/
  key_padded : ∀ value padded, Key.Pads value padded → Key.check padded = Key.check value
  /-- and so it is around the name, the description and the values of an attribute, -/
  attribute_padded : ∀ value padded, Attribute.Pads value padded → Attribute.check padded = Attribute.check value
  /-- and in the key and the attributes of a registration. -/
  registration_padded : ∀ value padded, Registration.Pads value padded →
    Registration.check padded = Registration.check value
  /-- So registrations whose keys differ in nothing else are registrations of one schema: once the first has
  succeeded, and after any proper commands in any sessions, the second is refused and changes nothing. -/
  second_taken : ∀ request₁ request₂ r₁ r₂, Registration.SameKeyPadded request₁ request₂ →
    Registration.check request₁ = .accepted r₁ → Registration.check request₂ = .accepted r₂ →
    r₂.key = r₁.key ∧
      ∀ s now between d, (Registry.create s now between r₁).answer = .ok d →
      ∀ turns : List Turn, (∀ turn ∈ turns, turn.command.Proper) →
      ∀ sessions pending now' between',
        let s' : Stage := ⟨(Turn.leave turns sessions (Registry.create s now between r₁).table).2, pending⟩
        Registry.create s' now' between' r₂ =
          Registry.reading s' (.error (.service (.alreadyExists r₁.key.reference)))

/-- **Construction is a normal form**, which white space around the texts that are trimmed does not change. -/
theorem normal_forms : NormalForms where
  reread := fun _ _ _ => Record.check_toJson
  key_padded := Key.ignores_pads
  attribute_padded := Attribute.ignores_pads
  registration_padded := Registration.ignores_pads
  second_taken := by
    intro request₁ request₂ r₁ r₂ hsame h₁ h₂
    have hkey := Registration.key_eq_of_sameKeyPadded hsame h₁ h₂
    refine ⟨hkey, fun s now between d hcreated turns hproper sessions pending now' between' => ?_⟩
    have hstores := (Registry.stores_of_create hcreated).evolves (Turn.leave_evolves hproper sessions _)
    rw [← hkey]
    exact Registry.create_of_stores hstores hkey now' between'

/-- A registration under the key of the sample, with white space around its parts and around the name of its
attribute. -/
def Registration.paddedSample : Json :=
  .obj
    [("schema_key", .obj (Key.fieldsOf "\u2003pay " "client\n" "v1")),
      ("attributes", .arr [.obj [("type", .str "LONG"), ("name", .str "\tamount\u00a0")]]),
      ("created_by", .str "ben")]

/-- It is taken, and once more when it is written, but it is refused after the sample. -/
theorem normal_forms_sample :
    ∃ r, Registration.check Registration.paddedSample = .accepted r ∧
      Record.check .registration (Record.registration r).toJson = .accepted (.registration r) ∧
      (Registry.create
          ⟨(Turn.leave Registry.sampleTurns []
            (Registry.create ⟨.empty, []⟩ (some Time.sessionStart) .none
              Registry.sampleRegistration).table).2, []⟩
          (some Time.sessionStart) .none r).answer =
        .error (.service (.alreadyExists Key.sample.reference)) := by
  obtain ⟨r, hr⟩ : ∃ r, Registration.check Registration.paddedSample = .accepted r := ⟨_, rfl⟩
  have hreread : Record.check .registration Registration.paddedSample = .accepted (.registration r) := by
    rw [Record.check, hr, Checked.map_accepted]
  have hpads : Key.Pads Key.sample.toJson (.obj (Key.fieldsOf "\u2003pay " "client\n" "v1")) :=
    .object (.keep (.text ⟨"\u2003", " ", rfl, rfl, rfl⟩)
      (.keep (.text ⟨"", "\n", rfl, rfl, rfl⟩) (.keep (.same _) .nil)))
  have hsame : Registration.SameKeyPadded Registry.sampleRegistration.toJson Registration.paddedSample :=
    ⟨Key.sample.toJson, _, _, .same _, hpads, rfl, rfl⟩
  have hcreated : (Registry.create ⟨.empty, []⟩ (some Time.sessionStart) .none
      Registry.sampleRegistration).answer =
      .ok (Table.Draft.entry ⟨Registry.sampleRegistration, Time.sessionStart⟩).details := by
    rw [Registry.create_of_free .empty fun _ _ he => absurd he (by simp [Table.Holds, Table.empty])]
  obtain ⟨-, htaken⟩ := normal_forms.second_taken _ _ _ _ hsame
    Registry.sampleRegistration.check_toJson hr
  refine ⟨r, hr, normal_forms.reread _ _ _ hreread, ?_⟩
  rw [htaken _ _ _ _ hcreated Registry.sampleTurns (by simp [Registry.sampleTurns, Command.Proper])]
  rfl

end SchemaRegistry
