import SchemaRegistry.Proofs.Host.Declarations

/-!
# The nearest declaration

Of several declarations of a name the nearest should decide whether the name is a field and what it holds. A
field that is declared again as a field follows this rule. A class variable does not: it is passed over before
its name is noted, so the nearest declaration that is no class variable decides, and a field of an ancestor shows
through a class variable that covers it. `nearest_decides_iff` says that this is the only exception.
-/

namespace SchemaRegistry.Inventory

open Declaration

/-! ## Names and their declarations -/

/-- The name does not begin with an underscore. -/
def IsPublic (name : String) : Prop := name.toList.head? ≠ some '_'

/-- The inventory has a field of this name and category. -/
def Lists (fields : List HostField) (name : String) (category : Category) : Prop :=
  ∃ f ∈ fields, f.name.text = name ∧ f.category = category

/-- The nearest declaration of a name. -/
def nearest? (ds : List Declaration) (name : String) : Option Declaration := ds.find? (·.name == name)

/-- The nearest declaration of a name that is no class variable. -/
def nearestField? (ds : List Declaration) (name : String) : Option Declaration :=
  ds.find? fun d => d.name == name && !d.hint.isClassVar

/-- The nearest declaration of a name decides about it: there is a field of this name if and only if that
declaration is no class variable, and the category of the field is that of its hint. -/
def NearestDecides (ds : List Declaration) (fields : List HostField) (name : String) : Prop :=
  ∀ category, Lists fields name category ↔
    ∃ d, nearest? ds name = some d ∧ d.hint.isClassVar = false ∧ d.hint.inferred = category

/-- The nearest declaration of a name is a class variable, and it covers one that is not. -/
def CoversField (ds : List Declaration) (name : String) : Prop :=
  ∃ d ∈ nearest? ds name, d.hint.isClassVar = true ∧
    ∃ other ∈ ds, other.name = name ∧ other.hint.isClassVar = false

instance (name : String) : Decidable (IsPublic name) := inferInstanceAs (Decidable (¬ _ = _))

instance (fields : List HostField) (name : String) (category : Category) :
    Decidable (Lists fields name category) :=
  inferInstanceAs (Decidable (∃ f ∈ fields, f.name.text = name ∧ f.category = category))

instance (ds : List Declaration) (name : String) : Decidable (CoversField ds name) :=
  inferInstanceAs (Decidable (∃ d ∈ nearest? ds name, d.hint.isClassVar = true ∧
    ∃ other ∈ ds, other.name = name ∧ other.hint.isClassVar = false))

variable {ds : List Declaration} {d : Declaration} {name : String}

theorem nearestField?_eq (hpublic : IsPublic name) :
    nearestField? ds name = ds.find? fun d => d.name == (name : FieldName) && d.isField := by
  refine congrArg (List.find? · ds) (funext fun d => ?_)
  by_cases hname : d.name = name
  · have hstart : FieldName.isPublic name := bne_iff_ne.mpr hpublic
    simp [isField, isPublicField, hname, hstart]
  · rw [beq_eq_false_iff_ne.mpr hname, Bool.false_and, Bool.false_and]

theorem exists_nearestField? (hmem : d ∈ ds) (hname : d.name = name) (hfield : d.hint.isClassVar = false) :
    ∃ found, nearestField? ds name = some found := by
  rw [← Option.isSome_iff_exists, nearestField?, List.find?_isSome]
  exact ⟨d, hmem, by simp [hname, hfield]⟩

/-- A nearest declaration that is no class variable is also the nearest of these. -/
theorem nearestField?_of_nearest? (h : nearest? ds name = some d) (hfield : d.hint.isClassVar = false) :
    nearestField? ds name = some d := by
  obtain ⟨hname, before, after, rfl, hbefore⟩ := List.find?_eq_some_iff_append.mp h
  refine List.find?_eq_some_iff_append.mpr ⟨by simp [hname, hfield], before, after, rfl, ?_⟩
  intro other hother
  simp [hbefore other hother]

/-- If no field is covered, the nearest declaration is no class variable or there is nothing behind it. -/
theorem nearest?_of_nearestField? (h : nearestField? ds name = some d) (hcovers : ¬ CoversField ds name) :
    nearest? ds name = some d := by
  have hmem : d ∈ ds := List.mem_of_find?_eq_some h
  have hd : d.name = name ∧ d.hint.isClassVar = false := by simpa using List.find?_some h
  obtain ⟨nearest, hnearest⟩ : ∃ nearest, nearest? ds name = some nearest := by
    rw [← Option.isSome_iff_exists, nearest?, List.find?_isSome]
    exact ⟨d, hmem, by simpa using hd.1⟩
  cases hvariable : nearest.hint.isClassVar with
  | true => exact absurd ⟨nearest, hnearest, hvariable, d, hmem, hd⟩ hcovers
  | false =>
    have hsame := nearestField?_of_nearest? hnearest hvariable
    rw [hnearest, ← hsame, h]

/-! ## Fields and their declarations -/

/-- If an inventory has the first field declaration of each name, then what it lists under a public name is the
nearest declaration that is no class variable. -/
theorem lists_iff {fields : List HostField} (hfields : fields.map fieldLine = (firsts ds).map line)
    (hpublic : IsPublic name) (category : Category) :
    Lists fields name category ↔ ∃ d, nearestField? ds name = some d ∧ d.hint.inferred = category := by
  have hlists : Lists fields name category ↔ ((name : FieldName), category) ∈ fields.map fieldLine := by
    simp [Lists, fieldLine]
  have hline : ((name : FieldName), category) ∈ (firsts ds).map line ↔
      ∃ d, (d ∈ firsts ds ∧ d.name = name) ∧ d.hint.inferred = category := by
    simp [line, and_assoc]
  rw [hlists, hfields, hline]
  simp only [mem_firsts_iff, nearestField?_eq hpublic]

/-- A name whose field is covered is listed against the nearest declaration. -/
theorem not_nearestDecides {fields : List HostField} {category : Category} (hcovers : CoversField ds name)
    (hlists : Lists fields name category) : ¬ NearestDecides ds fields name := by
  intro hdecides
  obtain ⟨nearest, hnearest, hvariable, -⟩ := hcovers
  obtain ⟨d, hd, hfield, -⟩ := (hdecides category).mp hlists
  obtain rfl := Option.some.inj (hd.symm.trans hnearest)
  exact absurd hvariable (by simp [hfield])

/-- Where the nearest declaration that is no class variable is listed, the nearest of all decides just if it
covers no field. -/
theorem nearestDecides_iff_not_coversField {fields : List HostField}
    (hlists : ∀ category, Lists fields name category ↔
      ∃ d, nearestField? ds name = some d ∧ d.hint.inferred = category) :
    NearestDecides ds fields name ↔ ¬ CoversField ds name := by
  constructor
  · intro hdecides hcovers
    have ⟨_, _, _, other, hother, hname, hfield⟩ := hcovers
    obtain ⟨d, hd⟩ := exists_nearestField? hother hname hfield
    exact not_nearestDecides hcovers ((hlists _).mpr ⟨d, hd, rfl⟩) hdecides
  · intro hcovers category
    rw [hlists]
    constructor
    · rintro ⟨d, hd, hcategory⟩
      have hfield : d.name = name ∧ d.hint.isClassVar = false := by simpa using List.find?_some hd
      exact ⟨d, nearest?_of_nearestField? hd hcovers, hfield.2, hcategory⟩
    · rintro ⟨d, hd, hfield, hcategory⟩
      exact ⟨d, nearestField?_of_nearest? hd hfield, hcategory⟩

/-- **The nearest declaration decides, unless it is a class variable that covers a field.** The inventory of a
class whose annotations all evaluate is read, if every field has a name. What it lists under a public name
is the nearest declaration that is no class variable. -/
theorem nearest_decides_iff {w : Workspace} {h : Hint} {host : String} {c : ClassRef}
    (hhost : host? w h = some (host, c)) (hds : declarations w (w.classes.lineage c) = .ok ds) (hnamed : Named ds) :
    ∃ fields logs, ofHint w h = (.ok fields, logs) ∧
      ∀ name, IsPublic name →
        (∀ category, Lists fields name category ↔
          ∃ d, nearestField? ds name = some d ∧ d.hint.inferred = category) ∧
        (NearestDecides ds fields name ↔ ¬ CoversField ds name) := by
  obtain ⟨fields, logs, hread, hfields⟩ := exists_ofHint_eq hhost hds hnamed
  refine ⟨fields, logs, hread, fun name hpublic => ?_⟩
  have hlists := lists_iff hfields hpublic
  exact ⟨hlists, nearestDecides_iff_not_coversField hlists⟩

/-! ## A covered field -/

/-- The legs of an animal are a field. Those of a dog are a class variable. -/
def coveringForms : List ClassForm :=
  let declare (name : String) (bases : List Form) (legs : Form) : ClassForm :=
    ⟨name, name, "app", bases, [("legs", .hint legs)], [], [], false⟩
  [declare "Animal" [] (.named "int"),
   declare "Dog" [.declared "Animal"] (.classVar (some (.named "int")))]

/-- The workspace in which they are declared. -/
def coveringWorkspace : Workspace := (Workspace.ofForms coveringForms).toOption.getD .initial

/-- The class of dogs, which is declared last. -/
def coveringClass : ClassRef :=
  (coveringWorkspace.declared.head?.map ModuleClass.ref).getD ClassRef.noneType

/-- The declarations of the class of dogs: legs as a class variable and, farther away, as a field. -/
theorem exists_covering : ∃ ds,
    declarations coveringWorkspace (coveringWorkspace.classes.lineage coveringClass) = .ok ds ∧
      Named ds ∧ CoversField ds "legs" := by
  have hchecked :
      ∃ ds ∈ (declarations coveringWorkspace (coveringWorkspace.classes.lineage coveringClass)).toOption,
        Named ds ∧ CoversField ds "legs" := by decide +kernel
  obtain ⟨ds, hds, hcovering⟩ := hchecked
  exact ⟨ds, eq_ok_of_toOption hds, hcovering⟩

/-- The class variable of dogs is nearest, and yet the field of animals is listed. -/
theorem nearest_decides_dogs : ∃ ds,
    declarations coveringWorkspace (coveringWorkspace.classes.lineage coveringClass) = .ok ds ∧
      Named ds ∧ CoversField ds "legs" ∧
      ∃ fields logs, ofHint coveringWorkspace (.cls coveringClass none) = (.ok fields, logs) ∧
        ∀ name, IsPublic name →
          (∀ category, Lists fields name category ↔
            ∃ d, nearestField? ds name = some d ∧ d.hint.inferred = category) ∧
          (NearestDecides ds fields name ↔ ¬ CoversField ds name) := by
  obtain ⟨ds, hds, hnamed, hcovers⟩ := exists_covering
  exact ⟨ds, hds, hnamed, hcovers, nearest_decides_iff (host?_cls _ _ none) hds hnamed⟩

/-- A class variable does not hide the field of an ancestor, so the nearest declaration does not always
decide. -/
theorem class_variable_uncovers_field : ∃ ds fields,
    declarations coveringWorkspace (coveringWorkspace.classes.lineage coveringClass) = .ok ds ∧
      (ofHint coveringWorkspace (.cls coveringClass none)).1 = .ok fields ∧
      IsPublic "legs" ∧ ¬ NearestDecides ds fields "legs" := by
  have hlisted : ∃ fields ∈ (ofHint coveringWorkspace (.cls coveringClass none)).1.toOption,
      Lists fields "legs" .integer := by decide +kernel
  obtain ⟨ds, hds, -, hcovers⟩ := exists_covering
  obtain ⟨fields, hfields, hlists⟩ := hlisted
  exact ⟨ds, fields, hds, eq_ok_of_toOption hfields, by decide, not_nearestDecides hcovers hlists⟩

end SchemaRegistry.Inventory
