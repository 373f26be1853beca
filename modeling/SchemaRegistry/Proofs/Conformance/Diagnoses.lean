import Mathlib.Data.List.Sort
import SchemaRegistry.Conformance.Check

/-!
# What a host type is told

`Diagnoses` says, without a word on how it is found out, which diagnostics a schema has for the fields of a
host type: one on the names if they do not fit, and otherwise one for each attribute that clashes with the
first field of its name. `validate_diagnoses` shows that `validate` reports these and nothing else.

That a field is missing is never reported on its own: where the names fit, every attribute has a field.
-/

namespace SchemaRegistry.Conformance

/-! ## The rule -/

/-- One of the fields has this name, in upper case. -/
def HasField (fields : List HostField) (name : String) : Prop := ∃ f ∈ fields, f.folded = name

/-- One of the attributes has this name, in upper case. -/
def Declares (schema : Details) (name : String) : Prop :=
  ∃ a ∈ schema.attributes.items, a.folded = name

/-- The names of the fields fit those of the attributes, as the mode of the schema wants it. -/
def NamesFit (schema : Details) (fields : List HostField) : Prop :=
  match schema.mode with
  | .strict => ∀ name, HasField fields name ↔ Declares schema name
  | .matching => ∀ name, Declares schema name → HasField fields name

/-- The list has the names of which `p` holds, each once and in code-point order. -/
structure Lists (names : List String) (p : String → Prop) : Prop where
  increasing : names.Pairwise (· < ·)
  mem_iff : ∀ name, name ∈ names ↔ p name

/-- The field is the first with this name. -/
def IsFirst (fields : List HostField) (name : String) (field : HostField) : Prop :=
  field.folded = name ∧
    ∃ before after, fields = before ++ field :: after ∧ ∀ other ∈ before, other.folded ≠ name

/-- The field cannot carry the attribute. Anything can carry an object. -/
def Clashes (a : Attribute) (field : HostField) : Prop :=
  a.kind.required ≠ .object ∧ field.category ≠ a.kind.required

/-- The diagnostics on the categories of attributes, one after the other. -/
inductive Reports (fields : List HostField) : List Attribute → List Diagnostic → Prop where
  | nil : Reports fields [] []
  /-- An attribute whose field can carry it is passed over. -/
  | carried {a : Attribute} {rest : List Attribute} {ds : List Diagnostic} {field : HostField}
      (first : IsFirst fields a.folded field) (fits : ¬ Clashes a field)
      (more : Reports fields rest ds) : Reports fields (a :: rest) ds
  /-- An attribute that clashes with its field is reported with both categories. -/
  | clash {a : Attribute} {rest : List Attribute} {ds : List Diagnostic} {field : HostField}
      (first : IsFirst fields a.folded field) (clashes : Clashes a field)
      (more : Reports fields rest ds) :
      Reports fields (a :: rest) (.incompatible a.folded a.kind.required field.category :: ds)

/-- The diagnostic is on the names of all fields and attributes at once. Others are on one attribute. -/
def IsOnNames : Diagnostic → Prop
  | .setMismatch _ | .missing _ => True
  | .noField _ | .incompatible .. => False

/-- The diagnostics of a schema for the fields of a host type. -/
inductive Diagnoses (schema : Details) (fields : List HostField) : List Diagnostic → Prop where
  /-- A strict schema lists the names that only one side has. -/
  | setMismatch {names : List String} (mode : schema.mode = .strict)
      (unfit : ¬ NamesFit schema fields)
      (lists : Lists names fun name => ¬ (HasField fields name ↔ Declares schema name)) :
      Diagnoses schema fields [.setMismatch names]
  /-- A matching schema lists the attributes without a field. -/
  | missing {names : List String} (mode : schema.mode = .matching)
      (unfit : ¬ NamesFit schema fields)
      (lists : Lists names fun name => Declares schema name ∧ ¬ HasField fields name) :
      Diagnoses schema fields [.missing names]
  /-- Where the names fit, the categories are compared. -/
  | categories {ds : List Diagnostic} (fit : NamesFit schema fields)
      (reports : Reports fields schema.attributes.items ds) : Diagnoses schema fields ds

/-! ## The rule decides -/

theorem Lists.unique {names names' : List String} {p : String → Prop} (h : Lists names p)
    (h' : Lists names' p) : names = names' :=
  h.increasing.eq_of_mem_iff h'.increasing fun name => (h.mem_iff name).trans (h'.mem_iff name).symm

theorem Lists.congr {names : List String} {p q : String → Prop} (h : Lists names p)
    (hiff : ∀ name, p name ↔ q name) : Lists names q :=
  ⟨h.increasing, fun name => (h.mem_iff name).trans (hiff name)⟩

theorem findField_eq_some_iff {fields : List HostField} {name : String} {field : HostField} :
    findField fields name = some field ↔ IsFirst fields name field := by
  rw [findField, List.find?_eq_some_iff_append]
  simp [IsFirst]

theorem isSome_findField_iff {fields : List HostField} {name : String} :
    (findField fields name).isSome ↔ HasField fields name := by
  simp [findField, HasField]

theorem exists_findField {fields : List HostField} {name : String} (h : HasField fields name) :
    ∃ field, findField fields name = some field :=
  Option.isSome_iff_exists.mp (isSome_findField_iff.mpr h)

/-- A name has one first field at most. -/
theorem IsFirst.unique {fields : List HostField} {name : String} {f g : HostField}
    (hf : IsFirst fields name f) (hg : IsFirst fields name g) : f = g := by
  rw [← findField_eq_some_iff] at hf hg
  exact Option.some.inj (hf.symm.trans hg)

theorem Reports.unique {fields : List HostField} {items : List Attribute} {ds ds' : List Diagnostic}
    (h : Reports fields items ds) (h' : Reports fields items ds') : ds = ds' := by
  induction h generalizing ds' with
  | nil => cases h'; rfl
  | carried first fits _ ih =>
    cases h' with
    | carried _ _ more => exact ih more
    | clash first' clashes => exact absurd (first.unique first' ▸ clashes) fits
  | clash first clashes _ ih =>
    cases h' with
    | carried first' fits => exact absurd (first.unique first' ▸ clashes) fits
    | clash first' _ more => rw [first.unique first', ih more]

/-- A schema has only one list of diagnostics for some fields. -/
theorem Diagnoses.unique {schema : Details} {fields : List HostField} {ds ds' : List Diagnostic}
    (h : Diagnoses schema fields ds) (h' : Diagnoses schema fields ds') : ds = ds' := by
  cases h with
  | setMismatch mode unfit lists =>
    cases h' with
    | setMismatch _ _ lists' => rw [lists.unique lists']
    | missing mode' => rw [mode] at mode'; cases mode'
    | categories fit => exact absurd fit unfit
  | missing mode unfit lists =>
    cases h' with
    | setMismatch mode' => rw [mode] at mode'; cases mode'
    | missing _ _ lists' => rw [lists.unique lists']
    | categories fit => exact absurd fit unfit
  | categories fit reports =>
    cases h' with
    | setMismatch _ unfit => exact absurd fit unfit
    | missing _ unfit => exact absurd fit unfit
    | categories _ reports' => exact reports.unique reports'

/-! ## Names -/

theorem mem_symmetricDifference {xs ys : List String} {name : String} :
    name ∈ symmetricDifference xs ys ↔ ¬ (name ∈ xs ↔ name ∈ ys) := by
  simp only [symmetricDifference, Text.mem_nameSet, List.mem_append, List.mem_filter,
    Bool.not_eq_true', List.contains_eq_mem, decide_eq_false_iff_not]
  tauto

theorem mem_difference {xs ys : List String} {name : String} :
    name ∈ difference xs ys ↔ name ∈ xs ∧ name ∉ ys := by
  simp [difference]

theorem mem_map_folded {fields : List HostField} {name : String} :
    name ∈ fields.map HostField.folded ↔ HasField fields name := List.mem_map

theorem mem_names {schema : Details} {name : String} :
    name ∈ schema.attributes.names ↔ Declares schema name := List.mem_map

/-- The comparison of names finds nothing wrong exactly if they fit. -/
theorem checkNames_eq_none_iff {schema : Details} {fields : List HostField} :
    checkNames schema.mode (fields.map HostField.folded) schema.attributes.names = none ↔
      NamesFit schema fields := by
  unfold checkNames NamesFit
  cases schema.mode with
  | strict =>
    have hempty : symmetricDifference (fields.map HostField.folded) schema.attributes.names = [] ↔
        ∀ name, HasField fields name ↔ Declares schema name := by
      simp only [List.eq_nil_iff_forall_not_mem, mem_symmetricDifference, mem_map_folded, mem_names,
        not_not]
    rw [← hempty]
    dsimp only
    split <;> simp_all
  | matching =>
    have hempty : difference schema.attributes.names (fields.map HostField.folded) = [] ↔
        ∀ name, Declares schema name → HasField fields name := by
      simp only [List.eq_nil_iff_forall_not_mem, mem_difference, mem_map_folded, mem_names,
        not_and_not_right]
    rw [← hempty]
    dsimp only
    split <;> simp_all

/-- What the comparison of names finds wrong is what is to be reported. -/
theorem diagnoses_of_checkNames {schema : Details} {fields : List HostField} {d : Diagnostic}
    (h : checkNames schema.mode (fields.map HostField.folded) schema.attributes.names = some d) :
    Diagnoses schema fields [d] := by
  have hunfit : ¬ NamesFit schema fields := by
    rw [← checkNames_eq_none_iff, h]
    simp
  unfold checkNames at h
  split at h
  case h_1 hmode =>
    split at h
    · cases h
    · cases h
      refine .setMismatch hmode hunfit ⟨Text.pairwise_nameSet _, fun name => ?_⟩
      rw [mem_symmetricDifference, mem_map_folded, mem_names]
  case h_2 hmode =>
    split at h
    · cases h
    · cases h
      refine .missing hmode hunfit ⟨Text.pairwise_nameSet _, fun name => ?_⟩
      rw [mem_difference, mem_map_folded, mem_names]

/-- What the comparison of names finds wrong is on names. -/
theorem isOnNames_of_checkNames {mode : Mode} {fieldNames attributeNames : List String} {d : Diagnostic}
    (h : checkNames mode fieldNames attributeNames = some d) : IsOnNames d := by
  unfold checkNames at h
  split at h
  all_goals
    split at h
    · cases h
    · cases h
      trivial

/-- Where the names fit, every attribute has a field. -/
theorem NamesFit.hasField {schema : Details} {fields : List HostField}
    (h : NamesFit schema fields) {a : Attribute} (ha : a ∈ schema.attributes.items) :
    HasField fields a.folded := by
  have hdeclared : Declares schema a.folded := ⟨a, ha, rfl⟩
  unfold NamesFit at h
  split at h
  · exact (h a.folded).mpr hdeclared
  · exact h a.folded hdeclared

/-! ## Categories -/

theorem accepts_eq_false_iff {a : Attribute} {field : HostField} :
    a.accepts field.category = false ↔ Clashes a field := by
  simp [Attribute.accepts, Kind.accepts, Category.isAssignableTo, Clashes]

/-- The comparison of categories reports each clash in the order of the attributes, if all of them have a
field. -/
theorem reports_filterMap {fields : List HostField} {items : List Attribute}
    (h : ∀ a ∈ items, HasField fields a.folded) :
    Reports fields items (items.filterMap (checkAttribute fields)) := by
  induction items with
  | nil => exact .nil
  | cons a rest ih =>
    have hrest := ih fun b hb => h b (by simp [hb])
    obtain ⟨field, hfound⟩ := exists_findField (h a (by simp))
    have hfirst := findField_eq_some_iff.mp hfound
    cases haccepts : a.accepts field.category with
    | true =>
      have hfits : ¬ Clashes a field := by
        rw [← accepts_eq_false_iff, haccepts]
        simp
      have hnone : checkAttribute fields a = none := by simp [checkAttribute, hfound, haccepts]
      rw [List.filterMap_cons_none hnone]
      exact .carried hfirst hfits hrest
    | false =>
      have hsome : checkAttribute fields a =
          some (.incompatible a.folded a.kind.required field.category) := by
        simp [checkAttribute, hfound, haccepts]
      rw [List.filterMap_cons_some hsome]
      exact .clash hfirst (accepts_eq_false_iff.mp haccepts) hrest

/-- What is found wrong with an attribute is on that attribute. -/
theorem names_of_checkAttribute {fields : List HostField} {a : Attribute} {d : Diagnostic}
    (h : checkAttribute fields a = some d) : d.names = [a.folded] ∧ ¬ IsOnNames d := by
  unfold checkAttribute at h
  split at h
  · cases h
    exact ⟨rfl, id⟩
  · split at h
    · cases h
    · cases h
      exact ⟨rfl, id⟩

/-! ## The verdict -/

/-- Where the names fit, the verdict and its record are on the categories. -/
theorem validate_of_namesFit {schema : Details} {fields : List HostField} (h : NamesFit schema fields)
    (failFast : Bool) :
    let ds := report failFast (schema.attributes.items.filterMap (checkAttribute fields))
    validate schema fields failFast =
      (⟨ds⟩, if ds.isEmpty then [] else [categoriesRecord schema.reference ds]) := by
  unfold validate
  rw [checkNames_eq_none_iff.mpr h, judge_eq_report]

/-- Where they do not, the verdict and its record are on the names, whether all attributes are to be judged or
not. -/
theorem exists_validate_of_not_namesFit {schema : Details} {fields : List HostField}
    (h : ¬ NamesFit schema fields) :
    ∃ d, checkNames schema.mode (fields.map HostField.folded) schema.attributes.names = some d ∧
      ∀ failFast, validate schema fields failFast = (⟨[d]⟩, [namesRecord schema.reference d]) := by
  obtain ⟨d, hd⟩ := Option.ne_none_iff_exists'.mp (mt checkNames_eq_none_iff.mp h)
  refine ⟨d, hd, fun failFast => ?_⟩
  unfold validate
  rw [hd]

/-- Where the names fit, the verdict is on the categories. -/
theorem diagnostics_of_namesFit {schema : Details} {fields : List HostField} (h : NamesFit schema fields)
    (failFast : Bool) :
    (validate schema fields failFast).1.diagnostics =
      report failFast (schema.attributes.items.filterMap (checkAttribute fields)) := by
  rw [validate_of_namesFit h]

/-- Where they do not, the verdict is the same whether all attributes are judged or not. -/
theorem diagnoses_of_not_namesFit {schema : Details} {fields : List HostField} (h : ¬ NamesFit schema fields)
    (failFast : Bool) : Diagnoses schema fields (validate schema fields failFast).1.diagnostics := by
  obtain ⟨d, hd, hvalidate⟩ := exists_validate_of_not_namesFit h
  rw [hvalidate failFast]
  exact diagnoses_of_checkNames hd

/-- The verdict reports what is to be reported. -/
theorem diagnoses_validate (schema : Details) (fields : List HostField) :
    Diagnoses schema fields (validate schema fields false).1.diagnostics := by
  by_cases hfit : NamesFit schema fields
  · rw [diagnostics_of_namesFit hfit]
    exact .categories hfit (reports_filterMap fun a ha => hfit.hasField ha)
  · exact diagnoses_of_not_namesFit hfit false

/-- Only where the names fit is there nothing to report. -/
theorem Diagnoses.namesFit_of_nil {schema : Details} {fields : List HostField}
    (h : Diagnoses schema fields []) : NamesFit schema fields := by
  cases h with
  | categories fit => exact fit

/-- The names of the fields of a host type that passes fit. -/
theorem namesFit_of_passed {schema : Details} {fields : List HostField} {failFast : Bool}
    (h : (validate schema fields failFast).1.passed = true) : NamesFit schema fields := by
  by_contra hunfit
  have hdiagnoses := diagnoses_of_not_namesFit hunfit failFast
  rw [List.isEmpty_iff.mp h] at hdiagnoses
  exact hunfit hdiagnoses.namesFit_of_nil

/-- Nothing is wrong with an attribute whose first field can carry it, and with no other. -/
theorem checkAttribute_eq_none_iff {fields : List HostField} {a : Attribute} :
    checkAttribute fields a = none ↔ ∃ field, IsFirst fields a.folded field ∧ ¬ Clashes a field := by
  simp only [← findField_eq_some_iff, ← accepts_eq_false_iff, checkAttribute]
  cases findField fields a.folded with
  | none => simp
  | some field => cases haccepts : a.accepts field.category <;> simp [haccepts]

theorem report_eq_nil_iff {failFast : Bool} {ds : List Diagnostic} : report failFast ds = [] ↔ ds = [] := by
  cases failFast <;> simp [report]

/-- A host type passes just if its names fit and the first field of each attribute can carry it. -/
theorem passed_iff {schema : Details} {fields : List HostField} {failFast : Bool} :
    (validate schema fields failFast).1.passed = true ↔
      NamesFit schema fields ∧
        ∀ a ∈ schema.attributes.items, ∃ field, IsFirst fields a.folded field ∧ ¬ Clashes a field := by
  have hcategories (hfit : NamesFit schema fields) :
      (validate schema fields failFast).1.passed = true ↔
        ∀ a ∈ schema.attributes.items, ∃ field, IsFirst fields a.folded field ∧ ¬ Clashes a field := by
    rw [Verdict.passed, List.isEmpty_iff, diagnostics_of_namesFit hfit, report_eq_nil_iff,
      List.filterMap_eq_nil_iff]
    exact forall₂_congr fun _ _ => checkAttribute_eq_none_iff
  constructor
  · intro hpassed
    have hfit := namesFit_of_passed hpassed
    exact ⟨hfit, (hcategories hfit).mp hpassed⟩
  · rintro ⟨hfit, hcarried⟩
    exact (hcategories hfit).mpr hcarried

/-- On categories, only clashes are reported. -/
theorem Reports.exists_incompatible {fields : List HostField} {items : List Attribute}
    {ds : List Diagnostic} (h : Reports fields items ds) :
    ∀ d ∈ ds, ∃ name expected actual, d = .incompatible name expected actual := by
  induction h with
  | nil => simp
  | carried _ _ _ ih => exact ih
  | clash _ _ _ ih =>
    intro d hd
    rcases List.mem_cons.mp hd with rfl | hd
    · exact ⟨_, _, _, rfl⟩
    · exact ih d hd

/-- A missing field is never reported on its own. -/
theorem Diagnoses.noField_not_mem {schema : Details} {fields : List HostField}
    {ds : List Diagnostic} (h : Diagnoses schema fields ds) (name : String) :
    Diagnostic.noField name ∉ ds := by
  cases h with
  | setMismatch => simp
  | missing => simp
  | categories _ reports =>
    intro hmem
    obtain ⟨_, _, _, heq⟩ := reports.exists_incompatible _ hmem
    cases heq

/-- **The verdict is sound and complete.** Judging all attributes, `validate` reports the diagnostics that the
schema has for the fields and no others. It passes exactly if there are none, and a missing field is never
reported on its own. -/
theorem validate_diagnoses (schema : Details) (fields : List HostField) :
    (∀ ds, (validate schema fields false).1.diagnostics = ds ↔ Diagnoses schema fields ds) ∧
      ((validate schema fields false).1.passed = true ↔ Diagnoses schema fields []) ∧
      ∀ name, Diagnostic.noField name ∉ (validate schema fields false).1.diagnostics := by
  have hdiagnoses := diagnoses_validate schema fields
  have hiff (ds : List Diagnostic) :
      (validate schema fields false).1.diagnostics = ds ↔ Diagnoses schema fields ds :=
    ⟨fun h => h ▸ hdiagnoses, fun h => hdiagnoses.unique h⟩
  refine ⟨hiff, ?_, hdiagnoses.noField_not_mem⟩
  rw [← hiff, Verdict.passed, List.isEmpty_iff]

end SchemaRegistry.Conformance
