import SchemaRegistry.Proofs.Conformance.FirstFields

/-!
# The order of attributes

A schema lists its attributes in an order, which is that in which they are judged. For the verdict it makes no
difference: names are compared as sets, and whether an attribute is carried is a matter of that attribute and the
fields alone. So two schemas with the same attributes in different orders pass the same host types and report the
same things, each in its own order: `reordering_permutes`. As the names of attributes are distinct, so are those that
are reported.
-/

namespace SchemaRegistry

/-- The schema with these attributes in place of its own. -/
def Details.declaring (schema : Details) (attributes : AttributeSet) : Details :=
  { schema with attributes := attributes }

namespace Conformance

/-- Each diagnostic is on one attribute, on each attribute there is one at most, and they come in the order of the
attributes. -/
def Follows (attributes : AttributeSet) (ds : List Diagnostic) : Prop :=
  ∃ names : List String, ds.map Diagnostic.names = names.map ([·]) ∧ names.Sublist attributes.names ∧ names.Nodup

variable {schema : Details} {attributes : AttributeSet} {fields : List HostField}

/-! ## Single attributes -/

/-- The names that are reported are those of the attributes that are not carried. -/
theorem map_names_filterMap (items : List Attribute) :
    (items.filterMap (checkAttribute fields)).map Diagnostic.names =
      ((items.filter fun a => (checkAttribute fields a).isSome).map Attribute.folded).map ([·]) := by
  induction items with
  | nil => rfl
  | cons a rest ih =>
    cases hcheck : checkAttribute fields a with
    | none =>
      rw [List.filterMap_cons_none hcheck, List.filter_cons_of_neg (by simp [hcheck]), ih]
    | some d =>
      rw [List.filterMap_cons_some hcheck, List.filter_cons_of_pos (by simp [hcheck]), List.map_cons, ih,
        (names_of_checkAttribute hcheck).1]
      rfl

theorem follows_filterMap (attributes : AttributeSet) (fields : List HostField) :
    Follows attributes (attributes.items.filterMap (checkAttribute fields)) := by
  have hsublist : ((attributes.items.filter fun a => (checkAttribute fields a).isSome).map
      Attribute.folded).Sublist attributes.names := List.filter_sublist.map Attribute.folded
  exact ⟨_, map_names_filterMap attributes.items, hsublist, attributes.distinct.sublist hsublist⟩

/-! ## Reordering -/

theorem declares_declaring_iff (hperm : schema.attributes.items.Perm attributes.items) (name : String) :
    Declares (schema.declaring attributes) name ↔ Declares schema name :=
  exists_congr fun _ => and_congr_left' hperm.mem_iff.symm

/-- The names are found to be the same, in the same order. -/
theorem checkNames_declaring (hperm : schema.attributes.items.Perm attributes.items) :
    checkNames (schema.declaring attributes).mode (fields.map HostField.folded)
        (schema.declaring attributes).attributes.names =
      checkNames schema.mode (fields.map HostField.folded) schema.attributes.names :=
  checkNames_congr (fun _ => .rfl) fun name => by
    rw [mem_names, mem_names, declares_declaring_iff hperm]

theorem namesFit_declaring_iff (hperm : schema.attributes.items.Perm attributes.items) :
    NamesFit (schema.declaring attributes) fields ↔ NamesFit schema fields := by
  rw [← checkNames_eq_none_iff, ← checkNames_eq_none_iff, checkNames_declaring hperm]

theorem passed_declaring (hperm : schema.attributes.items.Perm attributes.items) (failFast : Bool) :
    (validate (schema.declaring attributes) fields failFast).1.passed =
      (validate schema fields failFast).1.passed := by
  rw [Bool.eq_iff_iff, passed_iff, passed_iff, namesFit_declaring_iff hperm]
  exact and_congr_right fun _ => forall_congr' fun _ => imp_congr_left hperm.mem_iff.symm

/-- **Reordering the attributes reorders the report and does nothing else.** A diagnostic on names stays as it is,
and diagnostics on attributes follow the attributes. -/
theorem reordering_permutes (hperm : schema.attributes.items.Perm attributes.items) (fields : List HostField) :
    let before (failFast : Bool) := (validate schema fields failFast).1
    let after (failFast : Bool) := (validate (schema.declaring attributes) fields failFast).1
    (∀ failFast, (after failFast).passed = (before failFast).passed) ∧
      ((∃ d, IsOnNames d ∧ (before false).diagnostics = [d] ∧ (after false).diagnostics = [d]) ∨
        (∀ d ∈ (before false).diagnostics, ¬ IsOnNames d) ∧
          (before false).diagnostics.Perm (after false).diagnostics ∧
          Follows schema.attributes (before false).diagnostics ∧
          Follows attributes (after false).diagnostics) := by
  intro before after
  refine ⟨fun failFast => passed_declaring hperm failFast, ?_⟩
  by_cases hfit : NamesFit schema fields
  · right
    have hbefore : (before false).diagnostics = schema.attributes.items.filterMap (checkAttribute fields) :=
      diagnostics_of_namesFit hfit false
    have hafter : (after false).diagnostics = attributes.items.filterMap (checkAttribute fields) :=
      diagnostics_of_namesFit ((namesFit_declaring_iff hperm).mpr hfit) false
    -- Each attribute is judged on its own, so what is reported moves with the attributes.
    rw [hbefore, hafter]
    refine ⟨?_, hperm.filterMap _, follows_filterMap _ _, follows_filterMap _ _⟩
    intro d hd
    obtain ⟨a, -, hcheck⟩ := List.mem_filterMap.mp hd
    exact (names_of_checkAttribute hcheck).2
  · left
    obtain ⟨d, hd, hbefore⟩ := exists_validate_of_not_namesFit hfit
    obtain ⟨d', hd', hafter⟩ := exists_validate_of_not_namesFit (mt (namesFit_declaring_iff hperm).mp hfit)
    rw [checkNames_declaring hperm] at hd'
    obtain rfl : d = d' := Option.some.inj (hd.symm.trans hd')
    exact ⟨d, isOnNames_of_checkNames hd, congrArg (·.1.diagnostics) (hbefore false),
      congrArg (·.1.diagnostics) (hafter false)⟩

/-! ## Two orders -/

/-- The attribute of the name of a street. -/
def streetAttribute : Attribute := streetSchema.attributes.items.head streetSchema.attributes.nonempty

/-- The attribute of its length. -/
def lengthAttribute : Attribute := ⟨⟨"länge", by decide, by decide⟩, none, false, .float, [], by decide⟩

/-- The name and then the length. -/
def nameFirst : AttributeSet := ⟨[streetAttribute, lengthAttribute], by decide, by decide⟩

/-- The length and then the name. -/
def lengthFirst : AttributeSet := ⟨[lengthAttribute, streetAttribute], by decide, by decide⟩

/-- What a schema with these attributes reports on a street and its length. -/
def streetReport (attributes : AttributeSet) : List Diagnostic :=
  (validate (streetSchema.declaring attributes) [streetField, lengthField] false).1.diagnostics

/-- Both fields have the wrong category, which is reported in either order. -/
theorem reordering_permutes_street :
    nameFirst.items.Perm lengthFirst.items ∧ (streetReport nameFirst).Perm (streetReport lengthFirst) ∧
      Follows nameFirst (streetReport nameFirst) ∧ Follows lengthFirst (streetReport lengthFirst) := by
  have hperm : (streetSchema.declaring nameFirst).attributes.items.Perm lengthFirst.items := .swap ..
  obtain ⟨-, ⟨d, -, hreport, -⟩ | ⟨-, hreports, hfollows⟩⟩ :=
    reordering_permutes hperm [streetField, lengthField]
  · have hone : (streetReport nameFirst).length = 1 := congrArg List.length hreport
    exact absurd hone (by decide)
  · exact ⟨hperm, hreports, hfollows⟩

end Conformance

end SchemaRegistry
