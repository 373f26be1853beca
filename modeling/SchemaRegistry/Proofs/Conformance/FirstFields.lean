import SchemaRegistry.Proofs.Conformance.Diagnoses
import SchemaRegistry.Proofs.Text.UpperCase

/-!
# What is read of the fields

Of the fields of a host type only the first of each name counts, and of that only its category. So two lists of
fields that agree on these get the same verdict and the same log records: `validate_reads_firsts`. Fields that
come after another of their name can be left out, names can be written in upper case, and fields with different
names can be put in any order.
-/

namespace SchemaRegistry

/-- The field with its name written in upper case. -/
def HostField.inUpperCase (f : HostField) : HostField :=
  ⟨⟨Text.upper f.name.text, Text.one_le_length_upper f.name.fits.1, nofun⟩, f.category⟩

theorem HostField.folded_inUpperCase (f : HostField) : f.inUpperCase.folded = f.folded :=
  Text.upper_upper f.name.text

namespace Conformance

/-! ## First categories -/

/-- The first field of this name has this category. -/
def FirstHas (fields : List HostField) (name : String) (category : Category) : Prop :=
  ∃ f, IsFirst fields name f ∧ f.category = category

/-- The two lists have the same category first under this name, or both have no field of this name. -/
def AgreeOn (fields others : List HostField) (name : String) : Prop :=
  ∀ category, FirstHas fields name category ↔ FirstHas others name category

variable {fields others : List HostField} {name : String}

theorem firstHas_iff {category : Category} :
    FirstHas fields name category ↔ (findField fields name).map HostField.category = some category := by
  simp only [FirstHas, ← findField_eq_some_iff, Option.map_eq_some_iff]

theorem agreeOn_iff :
    AgreeOn fields others name ↔
      (findField fields name).map HostField.category = (findField others name).map HostField.category := by
  rw [Option.ext_iff]
  exact forall_congr' fun category => iff_congr firstHas_iff firstHas_iff

theorem agreeOn_of_findField (h : findField fields name = findField others name) :
    AgreeOn fields others name := by
  rw [agreeOn_iff, h]

theorem AgreeOn.hasField_iff (h : AgreeOn fields others name) :
    HasField fields name ↔ HasField others name := by
  have hsome := congrArg Option.isSome (agreeOn_iff.mp h)
  rw [Option.isSome_map, Option.isSome_map] at hsome
  rw [← isSome_findField_iff, ← isSome_findField_iff, hsome]

/-! ## The verdict -/

/-- Of the fields, an attribute is told only the first category of its name. -/
theorem AgreeOn.checkAttribute_eq {a : Attribute} (h : AgreeOn fields others a.folded) :
    checkAttribute fields a = checkAttribute others a := by
  have hcategory := (agreeOn_iff.mp h).symm
  unfold checkAttribute
  cases hfound : findField fields a.folded with
  | none =>
    have hother : findField others a.folded = none := by simpa [hfound] using hcategory
    rw [hother]
  | some f =>
    obtain ⟨g, hother, hsame⟩ : ∃ g, findField others a.folded = some g ∧ g.category = f.category := by
      simpa [hfound] using hcategory
    simp only [hother, hsame]

theorem lists_symmetricDifference (xs ys : List String) :
    Lists (symmetricDifference xs ys) fun name => ¬ (name ∈ xs ↔ name ∈ ys) :=
  ⟨Text.pairwise_nameSet _, fun _ => mem_symmetricDifference⟩

theorem lists_difference (xs ys : List String) :
    Lists (difference xs ys) fun name => name ∈ xs ∧ name ∉ ys :=
  ⟨Text.pairwise_nameSet _, fun _ => mem_difference⟩

/-- The comparison of names is told only which names there are. -/
theorem checkNames_congr {mode : Mode} {names names' attributeNames attributeNames' : List String}
    (h : ∀ name, name ∈ names ↔ name ∈ names')
    (h' : ∀ name, name ∈ attributeNames ↔ name ∈ attributeNames') :
    checkNames mode names attributeNames = checkNames mode names' attributeNames' := by
  have hstrict : symmetricDifference names attributeNames = symmetricDifference names' attributeNames' := by
    refine (lists_symmetricDifference _ _).unique ?_
    simpa only [h, h'] using lists_symmetricDifference names' attributeNames'
  have hmatching : difference attributeNames names = difference attributeNames' names' := by
    refine (lists_difference _ _).unique ?_
    simpa only [h, h'] using lists_difference attributeNames' names'
  unfold checkNames
  rw [hstrict, hmatching]

/-- Two lists of fields get the same verdict, and the same is logged, if the comparison of names and the judging of
each attribute find the same. -/
theorem validate_congr {schema : Details}
    (hnames : checkNames schema.mode (fields.map HostField.folded) schema.attributes.names =
      checkNames schema.mode (others.map HostField.folded) schema.attributes.names)
    (hcategories : ∀ a ∈ schema.attributes.items, checkAttribute fields a = checkAttribute others a)
    (failFast : Bool) : validate schema fields failFast = validate schema others failFast := by
  unfold validate
  rw [hnames, judge_eq_report, judge_eq_report, List.filterMap_congr hcategories]

/-- Fields that agree on every name get the same verdict, and the same is logged. -/
theorem validate_eq_of_agreeOn (schema : Details) (failFast : Bool)
    (h : ∀ name, AgreeOn fields others name) :
    validate schema fields failFast = validate schema others failFast := by
  refine validate_congr (checkNames_congr (fun name => ?_) fun _ => .rfl) (fun a _ => ?_) failFast
  · rw [mem_map_folded, mem_map_folded, (h name).hasField_iff]
  · exact (h a.folded).checkAttribute_eq

/-! ## Lists that agree -/

/-- A field that comes after another of its name does not count. -/
theorem agreeOn_of_covered {before after : List HostField} {f : HostField} (h : HasField before f.folded)
    (name : String) : AgreeOn (before ++ f :: after) (before ++ after) name := by
  refine agreeOn_of_findField ?_
  simp only [findField, List.find?_append, List.find?_cons]
  by_cases hname : f.folded = name
  · obtain ⟨g, hg⟩ := exists_findField (hname ▸ h)
    rw [findField] at hg
    rw [hg, Option.some_or, Option.some_or]
  · rw [beq_eq_false_iff_ne.mpr hname]

theorem agreeOn_inUpperCase (fields : List HostField) (name : String) :
    AgreeOn (fields.map HostField.inUpperCase) fields name := by
  rw [agreeOn_iff, findField, List.find?_map, Option.map_map]
  simp only [Function.comp_def, HostField.folded_inUpperCase]
  rfl

/-- If all names differ, a field is found under its own name. -/
theorem findField_eq_some_iff_of_nodup (h : (fields.map HostField.folded).Nodup) {f : HostField} :
    findField fields name = some f ↔ f ∈ fields ∧ f.folded = name := by
  constructor
  · intro hfound
    exact ⟨List.mem_of_find?_eq_some hfound, by simpa using List.find?_some hfound⟩
  · rintro ⟨hf, rfl⟩
    obtain ⟨g, hfound⟩ := exists_findField ⟨f, hf, rfl⟩
    have hname : g.folded = f.folded := by simpa using List.find?_some hfound
    rw [hfound, List.inj_on_of_nodup_map h (List.mem_of_find?_eq_some hfound) hf hname]

theorem agreeOn_of_perm (hperm : fields.Perm others) (hnodup : (fields.map HostField.folded).Nodup)
    (name : String) : AgreeOn fields others name := by
  have hnodup' : (others.map HostField.folded).Nodup := (hperm.map _).nodup_iff.mp hnodup
  refine agreeOn_of_findField (Option.ext fun f => ?_)
  rw [findField_eq_some_iff_of_nodup hnodup, findField_eq_some_iff_of_nodup hnodup', hperm.mem_iff]

/-- **Only the first category of each name is read.** -/
theorem validate_reads_firsts (schema : Details) (failFast : Bool) :
    (∀ fields others, (∀ name, AgreeOn fields others name) →
        validate schema fields failFast = validate schema others failFast) ∧
      (∀ before f after, HasField before f.folded →
        validate schema (before ++ f :: after) failFast = validate schema (before ++ after) failFast) ∧
      (∀ fields, validate schema (fields.map HostField.inUpperCase) failFast =
        validate schema fields failFast) ∧
      ∀ fields others, fields.Perm others → (fields.map HostField.folded).Nodup →
        validate schema fields failFast = validate schema others failFast :=
  ⟨fun _ _ => validate_eq_of_agreeOn schema failFast,
    fun _ _ _ hcovered => validate_eq_of_agreeOn schema failFast (agreeOn_of_covered hcovered),
    fun fields => validate_eq_of_agreeOn schema failFast (agreeOn_inUpperCase fields),
    fun _ _ hperm hnodup => validate_eq_of_agreeOn schema failFast (agreeOn_of_perm hperm hnodup)⟩

/-! ## A field in two spellings -/

/-- A strict schema of streets: each has a name, which is a text. -/
def streetSchema : Details where
  key := ⟨⟨"city", by decide, by decide⟩, ⟨"street", by decide, by decide⟩, ⟨"1", by decide, by decide⟩⟩
  description := none
  state := .created
  format := .json
  mode := .strict
  provenance := ⟨"ada", .midnight ⟨2024, 5, 17, by decide⟩, none, none⟩
  attributes :=
    ⟨[⟨⟨"straße", by decide, by decide⟩, none, false, .string, [], by decide⟩], by decide, by decide⟩

/-- The field of the name, with a category that cannot carry it. -/
def streetField : HostField := ⟨⟨"Straße", by decide⟩, .integer⟩

/-- A field of the same name in another spelling, with a category that can. -/
def respeltField : HostField := ⟨⟨"strasse", by decide⟩, .string⟩

/-- A field of another name. -/
def lengthField : HostField := ⟨⟨"länge", by decide⟩, .double⟩

example : (validate streetSchema [streetField, respeltField] false).1.diagnostics =
    [.incompatible "STRASSE" .string .integer] := by decide

/-- The second spelling is not read, upper case makes no difference, and nor does the order. -/
theorem validate_reads_firsts_streets :
    ((∀ name, AgreeOn [streetField, respeltField] [streetField] name) ∧
        validate streetSchema [streetField, respeltField] false = validate streetSchema [streetField] false) ∧
      (HasField [streetField] respeltField.folded ∧
        validate streetSchema ([streetField] ++ respeltField :: [lengthField]) false =
          validate streetSchema ([streetField] ++ [lengthField]) false) ∧
      validate streetSchema ([respeltField, streetField].map HostField.inUpperCase) false =
        validate streetSchema [respeltField, streetField] false ∧
      [streetField, lengthField].Perm [lengthField, streetField] ∧
        ([streetField, lengthField].map HostField.folded).Nodup ∧
        validate streetSchema [streetField, lengthField] false =
          validate streetSchema [lengthField, streetField] false := by
  obtain ⟨hagree, hcovered, hupper, hperm⟩ := validate_reads_firsts streetSchema false
  have hhas : HasField [streetField] respeltField.folded := ⟨streetField, by decide⟩
  have hsame : ∀ name, AgreeOn [streetField, respeltField] [streetField] name := agreeOn_of_covered hhas
  have hswap : [streetField, lengthField].Perm [lengthField, streetField] := .swap ..
  have hnodup : ([streetField, lengthField].map HostField.folded).Nodup := by decide
  exact ⟨⟨hsame, hagree _ _ hsame⟩, ⟨hhas, hcovered [streetField] respeltField [lengthField] hhas⟩, hupper _,
    hswap, hnodup, hperm _ _ hswap hnodup⟩

end Conformance

end SchemaRegistry
