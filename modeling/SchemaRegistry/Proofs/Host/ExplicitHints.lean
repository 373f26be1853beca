import SchemaRegistry.Proofs.Host.Faults

/-!
# Categories that have to be marked

No class has the category of a byte, of a long number or of a float: whole numbers are integers, and real ones are
doubles. A field has such a category only by a mark among the metadata of its hint, or of a hint that this one is made
of. `inferred_mem_marks` says so of a hint, and `exists_mark_of_mem` of a field.

So a host type without marks has no such field, and a schema with an attribute that requires one is never passed, for
each attribute is judged by a field (`unmarked_never_passes`).
-/

namespace SchemaRegistry

/-- Only marks have this category. -/
def Category.NeedsMark (c : Category) : Prop := c = .byte ∨ c = .long ∨ c = .float

instance (c : Category) : Decidable c.NeedsMark := inferInstanceAs (Decidable (_ ∨ _ ∨ _))

namespace Hint

/-! ## Marks -/

/-- The categories among metadata. -/
def categoriesAmong : List Hint → List Category
  | [] => []
  | category c :: rest => c :: categoriesAmong rest
  | _ :: rest => categoriesAmong rest

mutual

/-- The categories among the metadata of a hint and of those that it is made of: the hint under the metadata, the
members of a union, and what a new name or a class stands for. -/
def marks : Hint → List Category
  | annotated base metadata => categoriesAmong metadata ++ marks base
  | union _ members => marksOfAll members
  | newType _ _ of => marks of
  | cls _ (some of) => marks of
  | applied _ (some of) _ | submodel _ (some of) _ => marks of
  | _ => []

/-- The marks of some hints. -/
def marksOfAll : List Hint → List Category
  | [] => []
  | h :: rest => marks h ++ marksOfAll rest

end

theorem mem_categoriesAmong {metadata : List Hint} {c : Category} (h : markedCategory? metadata = some c) :
    c ∈ categoriesAmong metadata := by
  induction metadata with
  | nil => cases h
  | cons m rest ih =>
    cases m with
    | category c' =>
      cases h
      exact List.mem_cons_self
    | _ => exact ih h

theorem not_needsMark_object : ¬ Category.object.NeedsMark := by decide

theorem not_needsMark_enumeration : ¬ Category.enumeration.NeedsMark := by decide

theorem not_needsMark_other : ¬ Category.other.NeedsMark := by decide

/-- The traits of a class never say what only marks do. -/
theorem not_needsMark_category (traits : List Trait) : ¬ (Trait.category traits).NeedsMark := by
  unfold Trait.category
  repeat' split
  all_goals decide

mutual

/-- A hint has a category that needs a mark only if it has the mark. -/
theorem inferred_mem_marks : ∀ h : Hint, h.inferred.NeedsMark → h.inferred ∈ h.marks
  | annotated base metadata, hneeds => by
    rw [inferred] at hneeds ⊢
    rw [marks, List.mem_append]
    cases hmark : markedCategory? metadata with
    | some c => exact .inl (mem_categoriesAmong hmark)
    | none =>
      rw [hmark] at hneeds
      exact .inr (inferred_mem_marks base hneeds)
  | union _ members, hneeds => by
    have hpresent := mem_marksOfAll members
    rw [inferred] at hneeds ⊢
    rw [marks]
    generalize inferredPresent members = present at hpresent hneeds ⊢
    match present with
    | [c] => exact hpresent c List.mem_cons_self hneeds
    | [] | _ :: _ :: _ => exact absurd hneeds not_needsMark_other
  | newType _ _ of, hneeds => by
    rw [inferred] at hneeds ⊢
    exact inferred_mem_marks of hneeds
  | cls c (some of), hneeds => by
    rw [inferred] at hneeds ⊢
    split at hneeds
    case isTrue => exact absurd hneeds not_needsMark_object
    case isFalse htop =>
      rw [if_neg htop]
      exact inferred_mem_marks of hneeds
  | applied _ (some of) _, hneeds | submodel _ (some of) _, hneeds => by
    rw [inferred] at hneeds ⊢
    exact inferred_mem_marks of hneeds
  | cls c none, hneeds => by
    rw [inferred] at hneeds
    split at hneeds
    case isTrue => exact absurd hneeds not_needsMark_object
    case isFalse => exact absurd hneeds (not_needsMark_category _)
  | applied origin none _, hneeds | submodel origin none _, hneeds | named _ origin, hneeds
  | filled _ origin _, hneeds =>
    absurd hneeds (not_needsMark_category origin.traits)
  | literal _, hneeds => absurd hneeds not_needsMark_enumeration
  | nothing, hneeds | flag _, hneeds | whole _, hneeds | real _, hneeds | text _, hneeds | ellipsis, hneeds
  | sequence _, hneeds | tuple _, hneeds | set _, hneeds | dict _, hneeds | category _, hneeds
  | member .., hneeds | form _, hneeds | formed .., hneeds | initVar .., hneeds | typeVar .., hneeds
  | forward _, hneeds | function _, hneeds | slice .., hneeds | other .., hneeds => absurd hneeds not_needsMark_other

/-- The same for the members of a union. -/
theorem mem_marksOfAll : ∀ members : List Hint, ∀ c ∈ inferredPresent members, c.NeedsMark → c ∈ marksOfAll members
  | [], _, hc, _ => nomatch hc
  | h :: rest, c, hc, hneeds => by
    rw [marksOfAll, List.mem_append]
    rw [inferredPresent] at hc
    split at hc
    · exact .inr (mem_marksOfAll rest c hc hneeds)
    · rcases List.mem_cons.mp hc with rfl | hc
      · exact .inl (inferred_mem_marks h hneeds)
      · exact .inr (mem_marksOfAll rest c hc hneeds)

end

end Hint

/-! ## Fields -/

namespace Inventory

open Declaration

variable {w : Workspace} {row : List HostClass} {ds : List Declaration} {d : Declaration}

/-- A declaration is an annotation of a class in the row that belongs to no framework. -/
theorem exists_hintsOf_of_mem (hds : declarations w row = .ok ds) (hd : d ∈ ds) :
    ∃ k ∈ row, isFramework w.classes k = .ok false ∧
      ∃ hints, (annotationsOf k).bind (hintsOf w k) = .ok hints ∧ (d.name, d.hint) ∈ hints := by
  induction row generalizing ds with
  | nil =>
    cases hds
    cases hd
  | cons k rest ih =>
    rw [declarations] at hds
    cases hframework : isFramework w.classes k with
    | error e => simp [hframework] at hds
    | ok known =>
      cases known with
      | true =>
        simp only [hframework] at hds
        obtain ⟨k', hk', hfound⟩ := ih hds hd
        exact ⟨k', List.mem_cons_of_mem k hk', hfound⟩
      | false =>
        simp only [hframework] at hds
        cases hhints : (annotationsOf k).bind (hintsOf w k) with
        | error e => simp [hhints] at hds
        | ok hints =>
          simp only [hhints] at hds
          cases hrest : declarations w rest with
          | error e => simp [hrest, Except.map] at hds
          | ok more =>
            obtain rfl : declared k hints ++ more = ds := by simpa [hrest, Except.map] using hds
            rcases List.mem_append.mp hd with hd | hd
            · obtain ⟨x, hx, rfl⟩ := List.mem_map.mp hd
              exact ⟨k, List.mem_cons_self, hframework, hints, hhints, hx⟩
            · obtain ⟨k', hk', hfound⟩ := ih hrest hd
              exact ⟨k', List.mem_cons_of_mem k hk', hfound⟩

variable {host : String} {c : ClassRef} {fields : List HostField} {f : HostField}

/-- A field of a category that needs a mark comes of an annotation with the mark. -/
theorem exists_mark_of_mem {h : Hint} (hhost : host? w h = some (host, c)) (hread : (ofHint w h).1 = .ok fields)
    (hf : f ∈ fields) (hneeds : f.category.NeedsMark) :
    ∃ k ∈ w.classes.lineage c, isFramework w.classes k = .ok false ∧
      ∃ hints, (annotationsOf k).bind (hintsOf w k) = .ok hints ∧
        ∃ h, (.text f.name.text, h) ∈ hints ∧ f.category ∈ h.marks := by
  obtain ⟨ds, hds, hfields⟩ := exists_declarations_of_ofHint hhost hread
  have hline : fieldLine f ∈ fields.map fieldLine := List.mem_map_of_mem hf
  rw [hfields] at hline
  obtain ⟨d, hd, hsame⟩ := List.mem_map.mp hline
  obtain ⟨hname, hcategory⟩ := Prod.ext_iff.mp hsame
  rw [firsts_eq_kept] at hd
  obtain ⟨k, hk, hown, hints, hhints, hmem⟩ := exists_hintsOf_of_mem hds (mem_of_mem_kept hd).1
  refine ⟨k, hk, hown, hints, hhints, d.hint, ?_, ?_⟩
  · rwa [← show d.name = .text f.name.text from hname]
  · rw [← show d.hint.inferred = f.category from hcategory] at hneeds ⊢
    exact Hint.inferred_mem_marks d.hint hneeds

/-- No annotation of a class in the row has a mark, those of frameworks left out. -/
def Unmarked (w : Workspace) (row : List HostClass) : Prop :=
  ∀ k ∈ row, isFramework w.classes k = .ok false →
    ∀ hints, (annotationsOf k).bind (hintsOf w k) = .ok hints → ∀ x ∈ hints, x.2.marks = []

end Inventory

/-! ## Verdicts -/

namespace Conformance

open Inventory

theorem needsMark_required {kind : Kind} (h : kind = .byte ∨ kind = .long ∨ kind = .float) :
    kind.required.NeedsMark ∧ kind.required ≠ .object := by
  rcases h with rfl | rfl | rfl <;> decide

/-- **Bytes, long numbers and floats have to be marked.** A host type without a mark has no field of their
categories, and a schema with an attribute of one of these kinds is not passed, in either mode and whether all
attributes are judged or not. -/
theorem unmarked_never_passes {w : Workspace} {h : Hint} {host : String} {c : ClassRef}
    (hhost : host? w h = some (host, c)) (hunmarked : Unmarked w (w.classes.lineage c)) :
    (∀ fields, (ofHint w h).1 = .ok fields →
      ∀ f ∈ fields, f.category ≠ .byte ∧ f.category ≠ .long ∧ f.category ≠ .float) ∧
    ∀ schema : Details, (∃ a ∈ schema.attributes.items, a.kind = .byte ∨ a.kind = .long ∨ a.kind = .float) →
      ∀ failFast v, (validateHint schema w h failFast).1 = .ok v → v.passed = false := by
  have hfields : ∀ fields, (ofHint w h).1 = .ok fields →
      ∀ f ∈ fields, ¬ f.category.NeedsMark := by
    intro fields hread f hf hneeds
    obtain ⟨k, hk, hown, hints, hhints, marked, hmem, hmark⟩ := exists_mark_of_mem hhost hread hf hneeds
    rw [hunmarked k hk hown hints hhints _ hmem] at hmark
    cases hmark
  refine ⟨fun fields hread f hf => ?_, ?_⟩
  · have hnot := hfields fields hread f hf
    simpa only [Category.NeedsMark, not_or] using hnot
  · rintro schema ⟨a, ha, hkind⟩ failFast v hv
    rw [validateHint_fst] at hv
    cases hread : (ofHint w h).1 with
    | error e =>
      rw [hread] at hv
      cases hv
    | ok fields =>
      rw [hread] at hv
      cases hv
      -- A host type that passes has a field for the attribute, of the category that it requires.
      by_contra hpassed
      obtain ⟨-, hcarried⟩ := passed_iff.mp (Bool.eq_true_of_not_eq_false hpassed)
      obtain ⟨field, ⟨-, before, after, rfl, -⟩, hfits⟩ := hcarried a ha
      obtain ⟨hneeds, hobject⟩ := needsMark_required hkind
      have hcategory : field.category = a.kind.required := by
        by_contra hother
        exact hfits ⟨hobject, hother⟩
      refine hfields _ hread field (List.mem_append_right before List.mem_cons_self) ?_
      rwa [hcategory]

/-! ## Readings -/

/-- A reading has the whole number of a sensor and perhaps a ratio. -/
def readingForms : List ClassForm :=
  [⟨"Reading", "Reading", "app", [],
    [("sensor", .hint (.named "int")), ("ratio", .hint (.optional (.named "float")))], [], [], false⟩]

/-- The workspace in which they are declared. -/
def readingWorkspace : Workspace := (Workspace.ofForms readingForms).toOption.getD .initial

/-- The class of readings, which is declared last. -/
def readingClass : ClassRef :=
  (readingWorkspace.declared.head?.map ModuleClass.ref).getD ClassRef.noneType

/-- A schema that wants the number of the sensor to be a byte. -/
def readingSchema : Details :=
  { streetSchema with
    mode := .matching
    attributes := ⟨[⟨⟨"sensor", by decide, by decide⟩, none, false, .byte, [], by decide⟩], by decide, by decide⟩ }

theorem unmarked_of_checked {w : Workspace} {row : List HostClass}
    (h : ∀ k ∈ row, ∀ hints ∈ ((annotationsOf k).bind (hintsOf w k)).toOption, ∀ x ∈ hints, x.2.marks.isEmpty) :
    Unmarked w row := by
  intro k hk _ hints hhints x hx
  exact List.isEmpty_iff.mp (h k hk hints (by rw [hhints]; rfl) x hx)

/-- A whole number is not taken for a byte. -/
theorem unmarked_never_passes_reading :
    Unmarked readingWorkspace (readingWorkspace.classes.lineage readingClass) ∧
    ∃ fields v, (ofHint readingWorkspace (.cls readingClass none)).1 = .ok fields ∧ fields.length = 2 ∧
      (∀ f ∈ fields, f.category ≠ .byte ∧ f.category ≠ .long ∧ f.category ≠ .float) ∧
      (validateHint readingSchema readingWorkspace (.cls readingClass none) false).1 = .ok v ∧
        v.passed = false := by
  have hunmarked : Unmarked readingWorkspace (readingWorkspace.classes.lineage readingClass) :=
    unmarked_of_checked (by decide +kernel)
  have hread : ∃ fields ∈ (ofHint readingWorkspace (.cls readingClass none)).1.toOption, fields.length = 2 := by
    decide +kernel
  obtain ⟨fields, hfields, hlength⟩ := hread
  have hfields := eq_ok_of_toOption hfields
  obtain ⟨hcategories, hfails⟩ := unmarked_never_passes (host?_cls _ _ none) hunmarked
  have hverdict : (validateHint readingSchema readingWorkspace (.cls readingClass none) false).1 =
      .ok (validate readingSchema fields false).1 := by
    rw [validateHint_fst, hfields]
    rfl
  refine ⟨hunmarked, fields, _, hfields, hlength, hcategories fields hfields, hverdict, ?_⟩
  exact hfails readingSchema ⟨_, List.mem_cons_self, by decide⟩ false _ hverdict

end Conformance

end SchemaRegistry
