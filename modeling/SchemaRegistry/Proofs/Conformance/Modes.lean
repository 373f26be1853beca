import SchemaRegistry.Proofs.Conformance.FirstFields

/-!
# The two modes

The modes differ only in what they think of fields that the schema does not declare. On the fields that it does
declare they agree, as `modes_agree` says: both find the same attributes missing, and if none is, the same
categories wrong. So a host type conforms in strict mode just if it conforms in matching mode and has no other
fields.
-/

namespace SchemaRegistry

/-- The schema with this mode. -/
def Details.inMode (schema : Details) (mode : Mode) : Details := { schema with mode := mode }

namespace Conformance

instance (schema : Details) (name : String) : Decidable (Declares schema name) :=
  inferInstanceAs (Decidable (∃ a ∈ schema.attributes.items, a.folded = name))

/-- The fields that have the name of an attribute. -/
def ownFields (schema : Details) (fields : List HostField) : List HostField :=
  fields.filter fun f => Declares schema f.folded

/-- Every attribute has a field. -/
def Covers (schema : Details) (fields : List HostField) : Prop :=
  ∀ name, Declares schema name → HasField fields name

/-- The attribute name has no field. -/
def Lacks (schema : Details) (fields : List HostField) (name : String) : Prop :=
  Declares schema name ∧ ¬ HasField fields name

variable {schema : Details} {fields : List HostField} {name : String}

theorem covers_iff : Covers schema fields ↔ ∀ a ∈ schema.attributes.items, HasField fields a.folded := by
  constructor
  · exact fun h a ha => h a.folded ⟨a, ha, rfl⟩
  · rintro h name ⟨a, ha, rfl⟩
    exact h a ha

instance : Decidable (HasField fields name) := inferInstanceAs (Decidable (∃ f ∈ fields, f.folded = name))

instance : Decidable (Covers schema fields) := decidable_of_iff _ covers_iff.symm

/-! ## The fields that are declared -/

theorem hasField_ownFields_iff :
    HasField (ownFields schema fields) name ↔ HasField fields name ∧ Declares schema name := by
  simp only [HasField, ownFields, List.mem_filter, decide_eq_true_eq]
  constructor
  · rintro ⟨f, ⟨hf, hdeclared⟩, rfl⟩
    exact ⟨⟨f, hf, rfl⟩, hdeclared⟩
  · rintro ⟨⟨f, hf, rfl⟩, hdeclared⟩
    exact ⟨f, ⟨hf, hdeclared⟩, rfl⟩

/-- Leaving out the other fields does not change which field of a declared name is first. -/
theorem agreeOn_ownFields (h : Declares schema name) : AgreeOn fields (ownFields schema fields) name := by
  refine agreeOn_of_findField ?_
  rw [findField, findField, ownFields, List.find?_filter]
  refine congrArg (List.find? · fields) (funext fun f => ?_)
  by_cases hname : f.folded = name
  · simp [hname, h]
  · simp [hname]

theorem ownFields_eq_self_iff : ownFields schema fields = fields ↔ ∀ f ∈ fields, Declares schema f.folded := by
  simp [ownFields]

/-! ## What each mode wants -/

theorem namesFit_matching_iff : NamesFit (schema.inMode .matching) fields ↔ Covers schema fields := Iff.rfl

theorem namesFit_strict_iff :
    NamesFit (schema.inMode .strict) fields ↔
      Covers schema fields ∧ ∀ f ∈ fields, Declares schema f.folded := by
  constructor
  · intro h
    exact ⟨fun name => (h name).mpr, fun f hf => (h f.folded).mp ⟨f, hf, rfl⟩⟩
  · rintro ⟨hcovers, hdeclared⟩ name
    refine ⟨?_, hcovers name⟩
    rintro ⟨f, hf, rfl⟩
    exact hdeclared f hf

theorem namesFit_ownFields_iff :
    NamesFit (schema.inMode .strict) (ownFields schema fields) ↔ Covers schema fields := by
  rw [namesFit_strict_iff]
  constructor
  · rintro ⟨hcovers, -⟩ name hdeclared
    exact (hasField_ownFields_iff.mp (hcovers name hdeclared)).1
  · intro hcovers
    refine ⟨fun name hdeclared => hasField_ownFields_iff.mpr ⟨hcovers name hdeclared, hdeclared⟩, ?_⟩
    intro f hf
    simpa using (List.mem_filter.mp hf).2

/-! ## The verdicts -/

theorem Diagnoses.exists_missing {ds : List Diagnostic} (h : Diagnoses (schema.inMode .matching) fields ds)
    (hunfit : ¬ NamesFit (schema.inMode .matching) fields) :
    ∃ names, Lists names (Lacks schema fields) ∧ ds = [.missing names] := by
  cases h with
  | setMismatch mode => cases mode
  | missing _ _ lists => exact ⟨_, lists, rfl⟩
  | categories fit => exact absurd fit hunfit

theorem Diagnoses.exists_setMismatch {ds : List Diagnostic} (h : Diagnoses (schema.inMode .strict) fields ds)
    (hunfit : ¬ NamesFit (schema.inMode .strict) fields) :
    ∃ names, Lists names (fun name => ¬ (HasField fields name ↔ Declares schema name)) ∧
      ds = [.setMismatch names] := by
  cases h with
  | setMismatch _ _ lists => exact ⟨_, lists, rfl⟩
  | missing mode => cases mode
  | categories fit => exact absurd fit hunfit

/-- If no attribute is missing, the modes find the same categories wrong. -/
theorem diagnostics_eq_of_covers (h : Covers schema fields) (failFast : Bool) :
    (validate (schema.inMode .matching) fields failFast).1.diagnostics =
      (validate (schema.inMode .strict) (ownFields schema fields) failFast).1.diagnostics := by
  have hcategories : schema.attributes.items.filterMap (checkAttribute fields) =
      schema.attributes.items.filterMap (checkAttribute (ownFields schema fields)) :=
    List.filterMap_congr fun a ha => (agreeOn_ownFields ⟨a, ha, rfl⟩).checkAttribute_eq
  rw [diagnostics_of_namesFit (namesFit_matching_iff.mpr h),
    diagnostics_of_namesFit (namesFit_ownFields_iff.mpr h)]
  exact congrArg (report failFast) hcategories

/-- If some attributes are missing, each mode lists these and nothing else. -/
theorem exists_lists_lacks (h : ¬ Covers schema fields) (failFast : Bool) :
    ∃ names, Lists names (Lacks schema fields) ∧
      (validate (schema.inMode .matching) fields failFast).1.diagnostics = [.missing names] ∧
      (validate (schema.inMode .strict) (ownFields schema fields) failFast).1.diagnostics =
        [.setMismatch names] := by
  have hunfit := mt namesFit_matching_iff.mp h
  have hunfit' := mt namesFit_ownFields_iff.mp h
  obtain ⟨names, hlists, hmissing⟩ := (diagnoses_of_not_namesFit hunfit failFast).exists_missing hunfit
  obtain ⟨names', hlists', hmismatch⟩ :=
    (diagnoses_of_not_namesFit hunfit' failFast).exists_setMismatch hunfit'
  have hlacks (name : String) :
      ¬ (HasField (ownFields schema fields) name ↔ Declares schema name) ↔ Lacks schema fields name := by
    rw [hasField_ownFields_iff, Lacks]
    tauto
  obtain rfl := hlists.unique (hlists'.congr hlacks)
  exact ⟨names, hlists, hmissing, hmismatch⟩

theorem passed_eq (schema : Details) (fields : List HostField) (failFast : Bool) :
    (validate (schema.inMode .matching) fields failFast).1.passed =
      (validate (schema.inMode .strict) (ownFields schema fields) failFast).1.passed := by
  unfold Verdict.passed
  by_cases hcovers : Covers schema fields
  · rw [diagnostics_eq_of_covers hcovers]
  · obtain ⟨names, -, hmissing, hmismatch⟩ := exists_lists_lacks hcovers failFast
    rw [hmissing, hmismatch]
    rfl

/-- A host type that passes in strict mode has only fields that are declared. -/
theorem passed_strict_iff (failFast : Bool) :
    (validate (schema.inMode .strict) fields failFast).1.passed = true ↔
      (validate (schema.inMode .strict) (ownFields schema fields) failFast).1.passed = true ∧
        ∀ f ∈ fields, Declares schema f.folded := by
  constructor
  · intro hpassed
    have hdeclared := (namesFit_strict_iff.mp (namesFit_of_passed hpassed)).2
    exact ⟨by rwa [ownFields_eq_self_iff.mpr hdeclared], hdeclared⟩
  · rintro ⟨hpassed, hdeclared⟩
    rwa [ownFields_eq_self_iff.mpr hdeclared] at hpassed

/-- **The modes agree on the fields that are declared.** -/
theorem modes_agree (schema : Details) (fields : List HostField) (failFast : Bool) :
    let matching := (validate (schema.inMode .matching) fields failFast).1
    let strict := (validate (schema.inMode .strict) (ownFields schema fields) failFast).1
    matching.passed = strict.passed ∧
      (Covers schema fields → matching.diagnostics = strict.diagnostics) ∧
      (¬ Covers schema fields → ∃ names, Lists names (Lacks schema fields) ∧
        matching.diagnostics = [.missing names] ∧ strict.diagnostics = [.setMismatch names]) ∧
      ((validate (schema.inMode .strict) fields failFast).1.passed = true ↔
        matching.passed = true ∧ ∀ f ∈ fields, Declares schema f.folded) := by
  have hpassed := passed_eq schema fields failFast
  refine ⟨hpassed, fun hcovers => diagnostics_eq_of_covers hcovers failFast,
    fun hlacks => exists_lists_lacks hlacks failFast, ?_⟩
  rw [hpassed]
  exact passed_strict_iff failFast

/-- A street with a length besides its name, and one with a length only. -/
theorem modes_agree_streets :
    (Covers streetSchema [lengthField, streetField] ∧
      (validate (streetSchema.inMode .matching) [lengthField, streetField] false).1.diagnostics =
        (validate (streetSchema.inMode .strict) (ownFields streetSchema [lengthField, streetField])
          false).1.diagnostics) ∧
      ¬ Covers streetSchema [lengthField] ∧
        ∃ names, Lists names (Lacks streetSchema [lengthField]) ∧
          (validate (streetSchema.inMode .matching) [lengthField] true).1.diagnostics = [.missing names] ∧
          (validate (streetSchema.inMode .strict) (ownFields streetSchema [lengthField]) true).1.diagnostics =
            [.setMismatch names] := by
  obtain ⟨-, hsame, -⟩ := modes_agree streetSchema [lengthField, streetField] false
  obtain ⟨-, -, hlists, -⟩ := modes_agree streetSchema [lengthField] true
  have hcovers : Covers streetSchema [lengthField, streetField] := by decide
  have hlacks : ¬ Covers streetSchema [lengthField] := by decide
  exact ⟨⟨hcovers, hsame hcovers⟩, hlacks, hlists hlacks⟩

end Conformance

end SchemaRegistry
