import Mathlib.Data.List.Perm.Lattice
import SchemaRegistry.Proofs.Conformance.FirstFields

/-!
# Strict schemas

A strict schema wants the fields of a host type to be its attributes. `strict_pairs_off` says what comes of this:
a host type passes just if the first fields of its names can be paired off with the attributes, each attribute with
a field of its name that can carry it and no field left over. Where no two fields share a name these are all its
fields. But names are compared as sets and only first fields are read, so a further field in another spelling of a
name passes unread, with any category: `overlooks_respelt_field`.
-/

namespace SchemaRegistry.Conformance

/-! ## The first field of each name -/

/-- The first field of each name, in the order of the fields. -/
def firstFields : List HostField → List HostField
  | [] => []
  | f :: rest => f :: (firstFields rest).filter fun g => g.folded ≠ f.folded

variable {fields : List HostField} {items : List Attribute}

theorem mem_firstFields_iff {f : HostField} : f ∈ firstFields fields ↔ IsFirst fields f.folded f := by
  rw [← findField_eq_some_iff]
  induction fields with
  | nil => simp [firstFields, findField]
  | cons g rest ih =>
    rw [firstFields, List.mem_cons, List.mem_filter, ih, findField, findField, List.find?_cons]
    by_cases hname : g.folded = f.folded
    · simp [hname, eq_comm]
    · have hne : f ≠ g := fun heq => hname (congrArg HostField.folded heq.symm)
      rw [beq_eq_false_iff_ne.mpr hname]
      simp [hne, Ne.symm hname]

theorem nodup_firstFields (fields : List HostField) : ((firstFields fields).map HostField.folded).Nodup := by
  induction fields with
  | nil => exact List.nodup_nil
  | cons f rest ih =>
    rw [firstFields, List.map_cons, List.nodup_cons]
    constructor
    · intro hmem
      obtain ⟨g, hg, hname⟩ := List.mem_map.mp hmem
      simp [hname] at hg
    · exact ih.sublist (List.filter_sublist.map _)

theorem firstFields_sublist (fields : List HostField) : (firstFields fields).Sublist fields := by
  induction fields with
  | nil => exact .slnil
  | cons f rest ih => exact (List.filter_sublist.trans ih).cons_cons f

theorem firstFields_eq_self_iff : firstFields fields = fields ↔ (fields.map HostField.folded).Nodup := by
  constructor
  · intro h
    exact h ▸ nodup_firstFields fields
  · intro h
    induction fields with
    | nil => rfl
    | cons f rest ih =>
      rw [List.map_cons, List.nodup_cons] at h
      rw [firstFields, ih h.2, List.filter_eq_self.mpr]
      intro g hg
      simpa using fun hname => h.1 (List.mem_map.mpr ⟨g, hg, hname⟩)

theorem IsFirst.mem {name : String} {f : HostField} (h : IsFirst fields name f) : f ∈ fields := by
  obtain ⟨-, before, after, rfl, -⟩ := h
  simp

/-! ## Pairs -/

/-- The field has the name of the attribute, and can carry it. -/
def Carries (a : Attribute) (f : HostField) : Prop := f.folded = a.folded ∧ ¬ Clashes a f

/-- Attributes and fields can be paired off, each attribute with a field that carries it. -/
def PairsOff (items : List Attribute) (fields : List HostField) : Prop :=
  ∃ partners, partners.Perm fields ∧ List.Forall₂ Carries items partners

theorem exists_carries {partners : List HostField} (h : List.Forall₂ Carries items partners) :
    (∀ a ∈ items, ∃ f ∈ partners, Carries a f) ∧ ∀ f ∈ partners, ∃ a ∈ items, Carries a f := by
  induction h with
  | nil => simp
  | @cons a f items partners hcarries _ ih =>
    constructor
    · intro b hb
      rcases List.mem_cons.mp hb with rfl | hb
      · exact ⟨f, .head _, hcarries⟩
      · obtain ⟨g, hg, hcarries⟩ := ih.1 b hb
        exact ⟨g, .tail _ hg, hcarries⟩
    · intro g hg
      rcases List.mem_cons.mp hg with rfl | hg
      · exact ⟨a, .head _, hcarries⟩
      · obtain ⟨b, hb, hcarries⟩ := ih.2 g hg
        exact ⟨b, .tail _ hb, hcarries⟩

theorem PairsOff.length_eq (h : PairsOff items fields) : fields.length = items.length := by
  obtain ⟨partners, hperm, hcarries⟩ := h
  rw [hcarries.length_eq, hperm.length_eq]

/-- The first fields of the attributes' names, in the order of the attributes. -/
def partnersOf (fields : List HostField) (items : List Attribute) : List HostField :=
  items.filterMap fun a => findField fields a.folded

theorem forall₂_partnersOf (h : ∀ a ∈ items, ∃ f, IsFirst fields a.folded f ∧ ¬ Clashes a f) :
    List.Forall₂ Carries items (partnersOf fields items) := by
  induction items with
  | nil => exact .nil
  | cons a rest ih =>
    obtain ⟨⟨f, hfirst, hfits⟩, hrest⟩ := List.forall_mem_cons.mp h
    rw [partnersOf, List.filterMap_cons, findField_eq_some_iff.mpr hfirst]
    exact .cons ⟨hfirst.1, hfits⟩ (ih hrest)

theorem map_folded_eq {partners : List HostField} (h : List.Forall₂ Carries items partners) :
    partners.map HostField.folded = items.map Attribute.folded := by
  induction h with
  | nil => rfl
  | cons hcarries _ ih => rw [List.map_cons, List.map_cons, hcarries.1, ih]

variable {schema : Details} {failFast : Bool}

/-- The partners of the attributes are all first fields, if no field has another name. -/
theorem partnersOf_perm (hdeclared : ∀ name, HasField fields name → Declares schema name)
    (hcarries : List.Forall₂ Carries schema.attributes.items (partnersOf fields schema.attributes.items)) :
    (partnersOf fields schema.attributes.items).Perm (firstFields fields) := by
  have hdistinct : ((partnersOf fields schema.attributes.items).map HostField.folded).Nodup := by
    rw [map_folded_eq hcarries]
    exact schema.attributes.distinct
  -- No field is twice in either list, so it is enough that they have the same fields.
  refine (List.perm_ext_iff_of_nodup hdistinct.of_map (nodup_firstFields fields).of_map).mpr fun f => ?_
  rw [mem_firstFields_iff, partnersOf, List.mem_filterMap]
  simp only [findField_eq_some_iff]
  constructor
  · rintro ⟨a, -, hfirst⟩
    rwa [hfirst.1]
  · intro hfirst
    obtain ⟨a, ha, hname⟩ := hdeclared f.folded ⟨f, hfirst.mem, rfl⟩
    exact ⟨a, ha, hname ▸ hfirst⟩

/-- The names fit and every attribute is carried just if attributes and first fields can be paired off. -/
theorem pairsOff_firstFields_iff :
    PairsOff schema.attributes.items (firstFields fields) ↔
      (∀ name, HasField fields name ↔ Declares schema name) ∧
        ∀ a ∈ schema.attributes.items, ∃ f, IsFirst fields a.folded f ∧ ¬ Clashes a f := by
  constructor
  · rintro ⟨partners, hperm, hpairs⟩
    obtain ⟨hfields, hattributes⟩ := exists_carries hpairs
    have hcarried : ∀ a ∈ schema.attributes.items, ∃ f, IsFirst fields a.folded f ∧ ¬ Clashes a f := by
      intro a ha
      obtain ⟨f, hf, hname, hfits⟩ := hfields a ha
      have hfirst := mem_firstFields_iff.mp (hperm.mem_iff.mp hf)
      exact ⟨f, hname ▸ hfirst, hfits⟩
    refine ⟨fun name => ⟨?_, ?_⟩, hcarried⟩
    · -- The first field of a name is the partner of an attribute, which has its name.
      intro hhas
      obtain ⟨f, hfound⟩ := exists_findField hhas
      have hfirst := findField_eq_some_iff.mp hfound
      have hmem : f ∈ firstFields fields := mem_firstFields_iff.mpr (hfirst.1.symm ▸ hfirst)
      obtain ⟨a, ha, hname, -⟩ := hattributes f (hperm.mem_iff.mpr hmem)
      exact ⟨a, ha, hname.symm.trans hfirst.1⟩
    · rintro ⟨a, ha, rfl⟩
      obtain ⟨f, hfirst, -⟩ := hcarried a ha
      exact ⟨f, hfirst.mem, hfirst.1⟩
  · rintro ⟨hnames, hcarried⟩
    have hpairs := forall₂_partnersOf hcarried
    exact ⟨_, partnersOf_perm (fun name => (hnames name).mp) hpairs, hpairs⟩

/-! ## What passes in strict mode -/

/-- A strict schema passes a host type just if its first fields and the attributes can be paired off. -/
theorem passed_iff_pairsOff (hmode : schema.mode = .strict) :
    (validate schema fields failFast).1.passed = true ↔
      PairsOff schema.attributes.items (firstFields fields) := by
  have hfit : NamesFit schema fields ↔ ∀ name, HasField fields name ↔ Declares schema name := by
    rw [NamesFit, hmode]
  rw [passed_iff, hfit, pairsOff_firstFields_iff]

/-- **Strict mode pairs the attributes off with the first fields**, and with all fields if no two of them share a
name. There are at least as many fields as attributes then, and more just if names are shared. -/
theorem strict_pairs_off (hmode : schema.mode = .strict) (fields : List HostField) (failFast : Bool) :
    ((validate schema fields failFast).1.passed = true ↔
        PairsOff schema.attributes.items (firstFields fields)) ∧
      ((validate schema fields failFast).1.passed = true →
        (∀ f ∈ fields, ∃ a ∈ schema.attributes.items, ∃ first,
            IsFirst fields f.folded first ∧ Carries a first) ∧
          schema.attributes.items.length ≤ fields.length ∧
          (fields.length = schema.attributes.items.length ↔ (fields.map HostField.folded).Nodup) ∧
          ((fields.map HostField.folded).Nodup → PairsOff schema.attributes.items fields)) := by
  have hiff : (validate schema fields failFast).1.passed = true ↔
      PairsOff schema.attributes.items (firstFields fields) := passed_iff_pairsOff hmode
  refine ⟨hiff, fun hpassed => ?_⟩
  have hpairs := hiff.mp hpassed
  obtain ⟨hnames, hcarried⟩ := pairsOff_firstFields_iff.mp hpairs
  have hsublist := firstFields_sublist fields
  refine ⟨?_, ?_, ?_, ?_⟩
  · intro f hf
    obtain ⟨a, ha, hname⟩ := (hnames f.folded).mp ⟨f, hf, rfl⟩
    obtain ⟨first, hfirst, hfits⟩ := hcarried a ha
    exact ⟨a, ha, first, hname ▸ hfirst, hfirst.1, hfits⟩
  · exact hpairs.length_eq ▸ hsublist.length_le
  · rw [← firstFields_eq_self_iff, ← hpairs.length_eq]
    exact ⟨fun h => hsublist.eq_of_length h.symm, fun h => by rw [h]⟩
  · intro hdistinct
    rwa [firstFields_eq_self_iff.mpr hdistinct] at hpairs

/-- A street with its name alone is paired off with the schema of streets. -/
theorem strict_pairs_off_street :
    streetSchema.mode = .strict ∧ PairsOff streetSchema.attributes.items (firstFields [respeltField]) ∧
      (validate streetSchema [respeltField] true).1.passed = true ∧
      ([respeltField].map HostField.folded).Nodup ∧
      PairsOff streetSchema.attributes.items [respeltField] := by
  have hmode : streetSchema.mode = .strict := rfl
  obtain ⟨hiff, hpassing⟩ := strict_pairs_off hmode [respeltField] true
  have hpassed : (validate streetSchema [respeltField] true).1.passed = true := by decide
  have hdistinct : ([respeltField].map HostField.folded).Nodup := by decide
  obtain ⟨-, -, -, hpairs⟩ := hpassing hpassed
  exact ⟨hmode, hiff.mp hpassed, hpassed, hdistinct, hpairs hdistinct⟩

/-- A second field in another spelling of the name passes, though there is no attribute left for it and the one of
its name does not accept its category. -/
theorem overlooks_respelt_field :
    streetSchema.mode = .strict ∧
      (∀ failFast, (validate streetSchema [respeltField, streetField] failFast).1.passed = true) ∧
      [respeltField, streetField].length ≠ streetSchema.attributes.items.length ∧
      ¬ ∃ a ∈ streetSchema.attributes.items,
        a.folded = streetField.folded ∧ a.accepts streetField.category = true := by
  decide

end SchemaRegistry.Conformance
