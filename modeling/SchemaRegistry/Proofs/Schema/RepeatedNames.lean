import SchemaRegistry.Proofs.Conformance.Diagnoses
import SchemaRegistry.Proofs.Schema.NormalForm
import SchemaRegistry.Schema.Details

/-!
# Repeated names

A schema takes its attributes only if no two of their names are equal in upper case. The walk over the names that
finds this out keeps a tally, and the tally knows the names that come more than once. So attributes are refused just
if two of them collide, and the refusal lists the names that they have in common with each other, whatever order
the attributes come in: `refuses_repeats`. Both models that have attributes, schemas and registrations, are refused
at that field for no other reason once the attributes themselves are taken.
-/

namespace SchemaRegistry

/-! ## Refusals at a field -/

namespace Checked

variable {α β : Type} {name other : String}

/-- The refusals at the field of a name and at parts of it. -/
def refusalsAt (name : String) (x : Checked α) : List Refusal :=
  x.refusals.filter fun r => r.place.head? == some (.name name)

@[simp]
theorem refusalsAt_map (f : α → β) (x : Checked α) : (f <$> x).refusalsAt name = x.refusalsAt name := by
  cases x <;> rfl

@[simp]
theorem refusalsAt_seq (f : Checked (α → β)) (x : Checked α) :
    (f <*> x).refusalsAt name = f.refusalsAt name ++ x.refusalsAt name := by
  cases f with
  | accepted f => cases x <;> rfl
  | refused why =>
    cases x with
    | accepted a => exact (List.append_nil _).symm
    | refused more => exact List.filter_append why more

theorem refusalsAt_under_self (x : Checked α) :
    (x.under (.name name)).refusalsAt name = (x.under (.name name)).refusals := by
  cases x with
  | accepted a => rfl
  | refused why =>
    refine List.filter_eq_self.mpr fun r hr => ?_
    obtain ⟨inner, -, rfl⟩ := List.mem_map.mp hr
    simp [Refusal.under]

theorem refusalsAt_under_of_ne (h : other ≠ name) (x : Checked α) :
    (x.under (.name other)).refusalsAt name = [] := by
  cases x with
  | accepted a => rfl
  | refused why =>
    refine List.filter_eq_nil_iff.mpr fun r hr => ?_
    obtain ⟨inner, -, rfl⟩ := List.mem_map.mp hr
    simpa [Refusal.under] using h

@[simp]
theorem refusalsAt_required_of_ne (h : other ≠ name) (check : Json → Checked α) (fields : Fields) :
    (required other check fields).refusalsAt name = [] := refusalsAt_under_of_ne h _

@[simp]
theorem refusalsAt_withDefault_of_ne (h : other ≠ name) (default : α) (check : Json → Checked α)
    (fields : Fields) : (withDefault other default check fields).refusalsAt name = [] := by
  unfold withDefault
  split
  · exact refusalsAt_under_of_ne h _
  · rfl

theorem refusalsAt_required_self {value : Json} {fields : Fields} (h : Json.lookup name fields = some value)
    (check : Json → Checked α) :
    (required name check fields).refusalsAt name = ((check value).under (.name name)).refusals := by
  rw [required, h, refusalsAt_under_self]

end Checked

/-- At its attributes, a schema is refused as they are. -/
theorem Details.refusalsAt_attributes {fields : Checked.Fields} {value : Json}
    (h : Json.lookup "attributes" fields = some value) :
    (Details.check (.obj fields)).refusalsAt "attributes" =
      ((AttributeSet.check value).under (.name "attributes")).refusals := by
  simp [Details.check, Checked.record, Checked.refusalsAt_required_self h]

/-- So is a registration. -/
theorem Registration.refusalsAt_attributes {fields : Checked.Fields} {value : Json}
    (h : Json.lookup "attributes" fields = some value) :
    (Registration.check (.obj fields)).refusalsAt "attributes" =
      ((AttributeSet.check value).under (.name "attributes")).refusals := by
  simp [Registration.check, Checked.record, Checked.refusalsAt_required_self h]

/-! ## Collisions -/

/-- Two of the attributes, at different positions, have names that are equal in upper case. -/
def Collide (items : List Attribute) : Prop :=
  ∃ i j : Nat, i < j ∧ ∃ a b : Attribute, items[i]? = some a ∧ items[j]? = some b ∧ a.folded = b.folded

/-- Two attributes or more have this name in upper case. -/
def Repeats (items : List Attribute) (name : String) : Prop := 2 ≤ (items.map Attribute.folded).count name

/-- The object has attributes that are all taken, and these are what is made of them. -/
def Brings (fields : Checked.Fields) (items : { items : List Attribute // items ≠ [] }) : Prop :=
  ∃ value, Json.lookup "attributes" fields = some value ∧
    Checked.nonemptyTuple Attribute.check value = .accepted items

section

variable {items others : List Attribute}

theorem collide_iff : Collide items ↔ ¬ (items.map Attribute.folded).Nodup := by
  rw [List.nodup_iff_getElem?_ne_getElem?]
  simp only [Collide, List.getElem?_map, List.length_map]
  push Not
  constructor
  · rintro ⟨i, j, hlt, a, b, ha, hb, hname⟩
    have hj : j < items.length := (List.getElem?_eq_some_iff.mp hb).1
    exact ⟨i, j, hlt, hj, by rw [ha, hb, Option.map_some, Option.map_some, hname]⟩
  · rintro ⟨i, j, hlt, hj, hname⟩
    rw [List.getElem?_eq_getElem (hlt.trans hj), List.getElem?_eq_getElem hj] at hname
    exact ⟨i, j, hlt, _, _, List.getElem?_eq_getElem _, List.getElem?_eq_getElem hj, Option.some.inj hname⟩

instance : Decidable (Collide items) := decidable_of_iff _ collide_iff.symm

theorem Collide.perm (hcollide : Collide items) (h : items.Perm others) : Collide others := by
  rw [collide_iff] at hcollide ⊢
  rwa [← (h.map Attribute.folded).nodup_iff]

theorem lists_repeatedNames (items : List Attribute) :
    Conformance.Lists (repeatedNames (items.map Attribute.folded)) (Repeats items) :=
  ⟨Text.pairwise_nameSet _, fun _ => mem_repeatedNames⟩

/-- The order of attributes makes no difference to the names that are repeated. -/
theorem repeatedNames_perm (h : items.Perm others) :
    repeatedNames (items.map Attribute.folded) = repeatedNames (others.map Attribute.folded) := by
  refine ((lists_repeatedNames items).congr fun name => ?_).unique (lists_repeatedNames others)
  rw [Repeats, Repeats, (h.map Attribute.folded).count_eq]

end

/-! ## What is refused -/

namespace AttributeSet

variable {items : { items : List Attribute // items ≠ [] }}

theorem ofItems_of_collide (h : Collide items.1) :
    ofItems items = .refuse (.repeatedNames (repeatedNames (items.1.map Attribute.folded))) :=
  dif_neg (mt repeatedNames_eq_nil_iff.mp (collide_iff.mp h))

theorem exists_ofItems_of_not_collide (h : ¬ Collide items.1) :
    ∃ s, ofItems items = .accepted s ∧ s.items = items.1 := by
  rw [collide_iff, not_not, ← repeatedNames_eq_nil_iff] at h
  exact ⟨_, dif_pos h, rfl⟩

/-- Once the attributes themselves are taken, schemas and registrations are refused at them for their names. -/
theorem refusalsAt_of_brings {fields : Checked.Fields} (h : Brings fields items) :
    (Details.check (.obj fields)).refusalsAt "attributes" =
        ((ofItems items).under (.name "attributes")).refusals ∧
      (Registration.check (.obj fields)).refusalsAt "attributes" =
        ((ofItems items).under (.name "attributes")).refusals := by
  obtain ⟨value, hvalue, hitems⟩ := h
  have hcheck : AttributeSet.check value = ofItems items := by
    rw [AttributeSet.check, hitems]
    rfl
  rw [Details.refusalsAt_attributes hvalue, Registration.refusalsAt_attributes hvalue, hcheck]
  exact ⟨rfl, rfl⟩

/-- **Attributes are refused just if two of them collide**, with the names that are repeated. -/
theorem refuses_repeats (items : { items : List Attribute // items ≠ [] }) :
    (Collide items.1 → ∃ names, Conformance.Lists names (Repeats items.1) ∧
        (∀ origin, (Cause.repeatedNames names).message origin =
          "Value error, attribute names must be unique (case-insensitive): " ++ ", ".intercalate names) ∧
        ∀ others : { items : List Attribute // items ≠ [] }, items.1.Perm others.1 →
          ofItems others = .refuse (.repeatedNames names) ∧
            ∀ fields, Brings fields others →
              (Details.check (.obj fields)).refusalsAt "attributes" =
                  [⟨[.name "attributes"], .repeatedNames names⟩] ∧
                (Registration.check (.obj fields)).refusalsAt "attributes" =
                  [⟨[.name "attributes"], .repeatedNames names⟩]) ∧
      (¬ Collide items.1 → (∃ s, ofItems items = .accepted s ∧ s.items = items.1) ∧
        ∀ fields, Brings fields items →
          (Details.check (.obj fields)).refusalsAt "attributes" = [] ∧
            (Registration.check (.obj fields)).refusalsAt "attributes" = []) := by
  constructor
  · intro hcollide
    refine ⟨_, lists_repeatedNames items.1, fun _ => rfl, fun others hperm => ?_⟩
    have hrefused := ofItems_of_collide (hcollide.perm hperm)
    rw [← repeatedNames_perm hperm] at hrefused
    refine ⟨hrefused, fun fields hbrings => ?_⟩
    obtain ⟨hdetails, hregistration⟩ := refusalsAt_of_brings hbrings
    rw [hdetails, hregistration, hrefused]
    exact ⟨rfl, rfl⟩
  · intro hdistinct
    obtain ⟨s, hs, hitems⟩ := exists_ofItems_of_not_collide hdistinct
    refine ⟨⟨s, hs, hitems⟩, fun fields hbrings => ?_⟩
    obtain ⟨hdetails, hregistration⟩ := refusalsAt_of_brings hbrings
    rw [hdetails, hregistration, hs]
    exact ⟨rfl, rfl⟩

/-- Any kind of attribute can do without values. -/
theorem nil_values (kind : Kind) : kind ≠ .enumeration → ([] : List (TrimmedText noLimits)) = [] := fun _ => rfl

/-- An attribute with a name and a kind, and without values. -/
def plain (kind : Kind) (name : TrimmedText nameLimits) : Attribute :=
  ⟨name, none, false, kind, [], nil_values kind⟩

/-- Three spellings of a name, with another name between them. -/
def spellings : { items : List Attribute // items ≠ [] } :=
  ⟨[plain .string ⟨"fuß", by decide, by decide⟩, plain .double ⟨"FUSS", by decide, by decide⟩,
    plain .string ⟨"höhe", by decide, by decide⟩, plain .integer ⟨"Fuss", by decide, by decide⟩], by decide⟩

/-- Two names of their own. -/
def twoNames : { items : List Attribute // items ≠ [] } :=
  ⟨[plain .string ⟨"ﬂuß", by decide, by decide⟩, plain .string ⟨"fluß-höhe", by decide, by decide⟩], by decide⟩

/-- An object with these attributes and nothing else. -/
def attributesOnly (items : List Attribute) : Checked.Fields :=
  [("attributes", .arr (items.map Attribute.toJson))]

theorem brings_attributesOnly (items : { items : List Attribute // items ≠ [] }) :
    Brings (attributesOnly items.1) items :=
  ⟨_, rfl, Checked.nonemptyTuple_map Attribute.check_toJson items.1 items.2⟩

/-- The name in three spellings is listed once, and two names of their own are taken. -/
theorem refuses_repeats_spellings :
    (Collide spellings.1 ∧ ofItems spellings = .refuse (.repeatedNames ["FUSS"]) ∧
        Brings (attributesOnly spellings.1) spellings ∧
        (Registration.check (.obj (attributesOnly spellings.1))).refusalsAt "attributes" =
          [⟨[.name "attributes"], .repeatedNames ["FUSS"]⟩]) ∧
      ¬ Collide twoNames.1 ∧ (∃ s, ofItems twoNames = .accepted s ∧ s.items = twoNames.1) ∧
        Brings (attributesOnly twoNames.1) twoNames ∧
        (Details.check (.obj (attributesOnly twoNames.1))).refusalsAt "attributes" = [] := by
  have hcollide : Collide spellings.1 := by decide
  have hdistinct : ¬ Collide twoNames.1 := by decide
  obtain ⟨names, hlists, -, hrefused⟩ := (refuses_repeats spellings).1 hcollide
  obtain ⟨hofItems, hfields⟩ := hrefused spellings (.refl _)
  obtain rfl : names = ["FUSS"] := (hlists.unique (lists_repeatedNames _)).trans (by decide)
  obtain ⟨haccepted, htaken⟩ := (refuses_repeats twoNames).2 hdistinct
  exact ⟨⟨hcollide, hofItems, brings_attributesOnly _, (hfields _ (brings_attributesOnly _)).2⟩,
    hdistinct, haccepted, brings_attributesOnly _, (htaken _ (brings_attributesOnly _)).1⟩

end AttributeSet

end SchemaRegistry
