import Mathlib.Data.List.Forall2
import SchemaRegistry.Schema.Attribute
import SchemaRegistry.Schema.Key
import SchemaRegistry.Schema.Registration

/-!
# Alterations that a check ignores

A check ignores an alteration if it answers the same before and after. A relation on the parts of a value becomes
one on objects (`AlterFields`) and on arrays (`OnArray`), and the checks from which the models are put together
pass on what the checks of the parts ignore: one lemma for each of them. An object is read only by looking fields
up under names that the check knows, so it may also gain fields under other names.
-/

namespace SchemaRegistry

namespace Checked

variable {α β γ : Type}

/-- The answer of a check does not change if its input is altered. -/
def Ignores (check : γ → Checked α) (alters : γ → γ → Prop) : Prop :=
  ∀ before after, alters before after → check after = check before

/-- The second fields are the first, each with its value altered as is allowed under its name, and among them
any fields under names that are not known. -/
inductive AlterFields (known : String → Prop) (part : String → Json → Json → Prop) : Fields → Fields → Prop where
  | nil : AlterFields known part [] []
  | insert {name : String} {value : Json} {before after : Fields} (unknown : ¬ known name)
      (rest : AlterFields known part before after) :
      AlterFields known part before ((name, value) :: after)
  | keep {name : String} {value value' : Json} {before after : Fields} (altered : part name value value')
      (rest : AlterFields known part before after) :
      AlterFields known part ((name, value) :: before) ((name, value') :: after)

/-- An object has its fields altered. Any other value stays as it is. -/
inductive OnObject (alters : Fields → Fields → Prop) : Json → Json → Prop where
  | same (value : Json) : OnObject alters value value
  | object {before after : Fields} (altered : alters before after) :
      OnObject alters (.obj before) (.obj after)

/-- An array has each of its items altered. Any other value stays as it is. -/
inductive OnArray (alters : Json → Json → Prop) : Json → Json → Prop where
  | same (value : Json) : OnArray alters value value
  | array {before after : List Json} (altered : List.Forall₂ alters before after) :
      OnArray alters (.arr before) (.arr after)

/-! ## Putting checks together -/

section Combining

variable {alters : γ → γ → Prop}

theorem ignores_eq (check : γ → Checked α) : Ignores check Eq := by
  rintro value _ rfl
  rfl

theorem Ignores.map {check : γ → Checked α} (h : Ignores check alters) (f : α → β) :
    Ignores (fun value => f <$> check value) alters := by
  intro before after haltered
  show f <$> check after = f <$> check before
  rw [h before after haltered]

theorem Ignores.seq {check : γ → Checked (α → β)} {arg : γ → Checked α} (h : Ignores check alters)
    (harg : Ignores arg alters) : Ignores (fun value => check value <*> arg value) alters := by
  intro before after haltered
  show check after <*> arg after = check before <*> arg before
  rw [h before after haltered, harg before after haltered]

theorem Ignores.andThen {check : γ → Checked α} (h : Ignores check alters) (f : α → Checked β) :
    Ignores (fun value => (check value).andThen f) alters := by
  intro before after haltered
  show (check after).andThen f = (check before).andThen f
  rw [h before after haltered]

end Combining

/-! ## Arrays -/

section Arrays

variable {check : Json → Checked α} {alters : Json → Json → Prop}

/-- Items that are altered one by one are taken and refused as before. -/
theorem Ignores.collect (h : Ignores check alters) {before after : List Json}
    (haltered : List.Forall₂ alters before after) (index : Nat) :
    collect check index after = collect check index before := by
  induction haltered generalizing index with
  | nil => rfl
  | cons hitem _ ih => rw [Checked.collect, Checked.collect, ih, h _ _ hitem]

theorem Ignores.list (h : Ignores check alters) : Ignores (list check) (OnArray alters) := by
  rintro _ _ (_ | haltered)
  · rfl
  · rw [Checked.list, Checked.list, h.collect haltered]

theorem Ignores.tuple (h : Ignores check alters) : Ignores (tuple check) (OnArray alters) := by
  rintro _ _ (_ | haltered)
  · rfl
  · rw [Checked.tuple, Checked.tuple, h.collect haltered]

theorem Ignores.nonemptyTuple (h : Ignores check alters) : Ignores (nonemptyTuple check) (OnArray alters) := by
  rintro _ _ (_ | haltered)
  · rfl
  · rw [Checked.nonemptyTuple, Checked.nonemptyTuple, h.collect haltered]

end Arrays

/-! ## Objects -/

theorem Ignores.record {check : Fields → Checked α} {alters : Fields → Fields → Prop} (h : Ignores check alters)
    (model : Model) : Ignores (record model check) (OnObject alters) := by
  rintro _ _ (_ | haltered)
  · rfl
  · exact h _ _ haltered

section Fields

variable {known : String → Prop} {part : String → Json → Json → Prop} {name : String}

/-- Under a name that is known nothing is found before and after, or a value and the altered one. -/
theorem AlterFields.lookup {before after : Fields} (h : AlterFields known part before after)
    (hname : known name) :
    (Json.lookup name before = none ∧ Json.lookup name after = none) ∨
      ∃ value value', Json.lookup name before = some value ∧ Json.lookup name after = some value' ∧
        part name value value' := by
  -- The last field of a name counts, so the fields further back decide before the one in front.
  induction h with
  | nil => exact .inl ⟨rfl, rfl⟩
  | @insert other value before after unknown _ ih =>
    have hother : other ≠ name := by
      rintro rfl
      exact unknown hname
    have hlookup : Json.lookup name ((other, value) :: after) = Json.lookup name after := by
      rw [Json.lookup, if_neg hother]
      cases Json.lookup name after <;> rfl
    rwa [hlookup]
  | @keep other value value' before after altered _ ih =>
    rw [Json.lookup, Json.lookup]
    rcases ih with ⟨hbefore, hafter⟩ | ⟨later, later', hbefore, hafter, hpart⟩
    · rw [hbefore, hafter]
      by_cases hother : other = name
      · subst hother
        exact .inr ⟨value, value', if_pos rfl, if_pos rfl, altered⟩
      · exact .inl ⟨if_neg hother, if_neg hother⟩
    · rw [hbefore, hafter]
      exact .inr ⟨later, later', rfl, rfl, hpart⟩

/-- A field that is known and not altered is found as before. -/
theorem AlterFields.lookup_eq {before after : Fields} (h : AlterFields known part before after)
    (hname : known name) (hpart : part name = Eq) : Json.lookup name after = Json.lookup name before := by
  rcases h.lookup hname with ⟨hbefore, hafter⟩ | ⟨value, value', hbefore, hafter, haltered⟩
  · rw [hbefore, hafter]
  · rw [hpart] at haltered
    rw [hbefore, hafter, haltered]

theorem Ignores.required {check : Json → Checked α} (h : Ignores check (part name)) (hname : known name) :
    Ignores (required name check) (AlterFields known part) := by
  intro before after haltered
  rw [Checked.required, Checked.required]
  rcases haltered.lookup hname with ⟨hbefore, hafter⟩ | ⟨value, value', hbefore, hafter, hpart⟩
  · rw [hbefore, hafter]
  · rw [hbefore, hafter]
    exact congrArg _ (h value value' hpart)

theorem Ignores.withDefault {check : Json → Checked α} (h : Ignores check (part name)) (hname : known name)
    (default : α) : Ignores (withDefault name default check) (AlterFields known part) := by
  intro before after haltered
  rw [Checked.withDefault, Checked.withDefault]
  rcases haltered.lookup hname with ⟨hbefore, hafter⟩ | ⟨value, value', hbefore, hafter, hpart⟩
  · rw [hbefore, hafter]
  · rw [hbefore, hafter]
    show (check value').under (.name name) = (check value).under (.name name)
    rw [h value value' hpart]

end Fields

end Checked

open Checked

variable {known : String → Prop} {part : String → Json → Json → Prop}

/-! ## Keys and attributes -/

/-- A key ignores what each of its parts ignores. -/
theorem Key.ignores_of_parts (h : ∀ name ∈ Model.key.fieldNames,
    known name ∧ Ignores (trimmed keyPartLimits) (part name)) :
    Ignores Key.check (OnObject (AlterFields known part)) := by
  obtain ⟨hknownSpace, hspace⟩ := h "namespace" (by decide)
  obtain ⟨hknownName, hname⟩ := h "schema_name" (by decide)
  obtain ⟨hknownVersion, hversion⟩ := h "version" (by decide)
  exact ((((hspace.required hknownSpace).map _).seq (hname.required hknownName)).seq
    (hversion.required hknownVersion)).record .key

namespace Attribute

/-- The kind that the fields of an attribute select by their tag. -/
def selected? (fields : Fields) : Option Kind := (Json.lookup "type" fields).bind kindOfTag?

/-- An attribute of a kind ignores what each of its fields ignores. The values matter to an enumeration
only. -/
theorem ignores_checkFields {kind : Kind}
    (hname : known "name" ∧ Ignores (trimmed nameLimits) (part "name"))
    (hdescription : known "description" ∧
      Ignores (nullable (trimmed attributeDescriptionLimits)) (part "description"))
    (hoptional : known "optional" ∧ Ignores flag (part "optional"))
    (hvalues : kind = .enumeration → known "values" ∧ Ignores (tuple (trimmed noLimits)) (part "values")) :
    Ignores (checkFields kind) (AlterFields known part) := by
  have hcheckValues : Ignores (checkValues kind) (AlterFields known part) := by
    intro before after haltered
    rw [checkValues, checkValues]
    by_cases hkind : kind = .enumeration
    · rw [dif_pos hkind, dif_pos hkind,
        (hvalues hkind).2.withDefault (hvalues hkind).1 [] before after haltered]
    · rw [dif_neg hkind, dif_neg hkind]
  exact ((((hname.2.required hname.1).map _).seq (hdescription.2.withDefault hdescription.1 none)).seq
    (hoptional.2.withDefault hoptional.1 false)).seq hcheckValues

/-- An attribute ignores what leaves its tag alone and is ignored by the kind that the tag selects. -/
theorem ignores_of_selected {alters : Fields → Fields → Prop}
    (htag : ∀ before after, alters before after → Json.lookup "type" after = Json.lookup "type" before)
    (hfields : ∀ before after kind, alters before after → selected? before = some kind →
      checkFields kind after = checkFields kind before) :
    Ignores check (OnObject alters) := by
  rintro _ _ (_ | @⟨before, after, haltered⟩)
  · rfl
  · have hselected := hfields before after
    rw [selected?] at hselected
    rw [check, check, htag before after haltered]
    cases hlookup : Json.lookup "type" before with
    | none => rfl
    | some tag =>
      rw [hlookup, Option.bind_some] at hselected
      dsimp only
      cases hkind : kindOfTag? tag with
      | none => rfl
      | some kind =>
        dsimp only
        rw [hselected kind haltered hkind]

end Attribute

/-- A registration ignores what its key and its attributes ignore, if all else stays as it is. -/
theorem Registration.ignores_of_parts (hknown : ∀ name ∈ Model.registration.fieldNames, known name)
    (hkey : Ignores Key.check (part "schema_key")) (hattributes : Ignores AttributeSet.check (part "attributes"))
    (hother : ∀ name, name ≠ "schema_key" → name ≠ "attributes" → part name = Eq) :
    Ignores Registration.check (OnObject (AlterFields known part)) := by
  have hplain {α : Type} (name : String) (check : Json → Checked α) (hname : name ≠ "schema_key")
      (hname' : name ≠ "attributes") : Ignores check (part name) := by
    rw [hother name hname hname']
    exact ignores_eq check
  exact (((((((hkey.required (hknown _ (by decide))).map _).seq
    ((hplain "description" _ (by decide) (by decide)).withDefault (hknown _ (by decide)) none)).seq
    ((hplain "schema_type" _ (by decide) (by decide)).withDefault (hknown _ (by decide)) Format.json)).seq
    ((hplain "validation_type" _ (by decide) (by decide)).withDefault (hknown _ (by decide))
      Mode.matching)).seq
    (hattributes.required (hknown _ (by decide)))).seq
    ((hplain "created_by" _ (by decide) (by decide)).required (hknown _ (by decide)))).record .registration

end SchemaRegistry
