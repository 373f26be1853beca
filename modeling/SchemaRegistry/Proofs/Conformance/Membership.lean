import Mathlib.Data.List.TFAE
import Mathlib.Tactic.TFAE
import SchemaRegistry.Proofs.Conformance.Logging
import SchemaRegistry.Proofs.Conformance.Modes
import SchemaRegistry.Proofs.Text.UpperCase

/-!
# Asking for an attribute

Whether a schema has an attribute of some name can be asked of its attributes one by one, of the set of their names
in upper case, and of a verdict in strict mode on a field of that name alone. `membership_agrees` says that the
answers are the same for every name and every spelling of it. Since no two attributes share a name in upper case, the
set has as many names as there are attributes, and a name that is found belongs to one attribute only.
-/

namespace SchemaRegistry

/-- Names that are all different are only put in order. -/
theorem Text.nameSet_perm {names : List String} (h : names.Nodup) : (Text.nameSet names).Perm names :=
  (List.perm_ext_iff_of_nodup ((Text.pairwise_nameSet names).imp String.ne_of_lt) h).mpr fun _ =>
    Text.mem_nameSet

/-- The field of this name and category. -/
def HostField.named (name : String) (h : name ≠ "") (category : Category) : HostField where
  name := ⟨name, Nat.one_le_iff_ne_zero.mpr (mt String.length_eq_zero_iff.mp h), nofun⟩
  category := category

namespace Conformance

variable {schema : Details} {name : String}

theorem length_attributeNames (schema : Details) :
    schema.attributeNames.length = schema.attributes.items.length := by
  have hnames : schema.attributeNames.Perm schema.attributes.names :=
    Text.nameSet_perm schema.attributes.distinct
  rw [hnames.length_eq, AttributeSet.names, List.length_map]

theorem mem_attributeNames_iff : name ∈ schema.attributeNames ↔ Declares schema name := by
  rw [Details.attributeNames, Text.mem_nameSet, mem_names]

theorem hasAttribute_iff : schema.hasAttribute name = true ↔ Declares schema (Text.upper name) := by
  rw [Details.hasAttribute, AttributeSet.has, List.contains_iff_mem, mem_names]

/-- An attribute that is declared under a name in upper case is the only one. -/
theorem declares_iff_countP_eq_one :
    Declares schema name ↔ schema.attributes.items.countP (fun a => a.folded = name) = 1 := by
  have hcount : schema.attributes.items.countP (fun a => a.folded = name) = schema.attributes.names.count name := by
    rw [AttributeSet.names, List.count, List.countP_map]
    exact List.countP_congr fun a _ => by simp
  have hatMost : schema.attributes.names.count name ≤ 1 :=
    List.nodup_iff_count_le_one.mp schema.attributes.distinct name
  rw [hcount, ← mem_names, ← List.count_pos_iff]
  omega

/-- In strict mode, a single field is listed as a mismatch just if its name is not declared. -/
theorem declares_folded_iff (f : HostField) (failFast : Bool) :
    Declares schema f.folded ↔
      ∀ names, .setMismatch names ∈ (validate (schema.inMode .strict) [f] failFast).1.diagnostics →
        f.folded ∉ names := by
  have hfield : HasField [f] f.folded := ⟨f, .head _, rfl⟩
  by_cases hfit : NamesFit (schema.inMode .strict) [f]
  · -- Where the names fit, no mismatch is reported at all.
    refine iff_of_true ((hfit f.folded).mp hfield) fun names hmem => ?_
    rw [diagnostics_of_namesFit hfit] at hmem
    exact absurd trivial (not_isOnNames_of_mem_report hmem)
  · obtain ⟨names, hlists, hmismatch⟩ := (diagnoses_of_not_namesFit hfit failFast).exists_setMismatch hfit
    have hlisted : f.folded ∈ names ↔ ¬ Declares schema f.folded := by
      rw [hlists.mem_iff]
      tauto
    simp [hmismatch, hlisted]

/-- **The questions agree.** -/
theorem membership_agrees (schema : Details) :
    schema.attributeNames.length = schema.attributes.items.length ∧
      ∀ (name : String) (h : name ≠ "") (category : Category) (failFast : Bool),
        [schema.hasAttribute name = true,
          Text.upper name ∈ schema.attributeNames,
          schema.hasAttribute (Text.upper name) = true,
          schema.attributes.items.countP (fun a => Text.upper a.name.text = Text.upper name) = 1,
          ∀ names, .setMismatch names ∈
              (validate (schema.inMode .strict) [.named name h category] failFast).1.diagnostics →
            Text.upper name ∉ names].TFAE := by
  refine ⟨length_attributeNames schema, fun name h category failFast => ?_⟩
  tfae_have 1 ↔ 2 := by rw [hasAttribute_iff, mem_attributeNames_iff]
  tfae_have 1 ↔ 3 := by rw [hasAttribute_iff, hasAttribute_iff, Text.upper_upper]
  tfae_have 1 ↔ 4 := hasAttribute_iff.trans declares_iff_countP_eq_one
  tfae_have 1 ↔ 5 := hasAttribute_iff.trans (declares_folded_iff (.named name h category) failFast)
  tfae_finish

/-- A street is found by its name in another spelling, and it is one attribute. Its length is not found, and a strict
verdict on a field of that name lists it. -/
theorem membership_agrees_street :
    streetSchema.attributeNames.length = 1 ∧
      ("Strasse" ≠ "" ∧ streetSchema.hasAttribute "Strasse" = true ∧
        streetSchema.attributes.items.countP (fun a => Text.upper a.name.text = Text.upper "Strasse") = 1) ∧
      ∃ h : "länge" ≠ "", Text.upper "länge" ∉ streetSchema.attributeNames ∧
        ∃ names, .setMismatch names ∈
            (validate (streetSchema.inMode .strict) [.named "länge" h .double] true).1.diagnostics ∧
          Text.upper "länge" ∈ names := by
  obtain ⟨hlength, hagree⟩ := membership_agrees streetSchema
  have hname : "Strasse" ≠ "" := by decide
  have hother : "länge" ≠ "" := by decide
  have hfound : streetSchema.hasAttribute "Strasse" = true := by decide
  have hmissing : Text.upper "länge" ∉ streetSchema.attributeNames := by decide
  have hone := ((hagree "Strasse" hname .string false).out 0 3).mp hfound
  have hlisted := mt ((hagree "länge" hother .double true).out 1 4).mpr hmissing
  push Not at hlisted
  exact ⟨hlength, ⟨hname, hfound, hone⟩, hother, hmissing, hlisted⟩

end Conformance

end SchemaRegistry
