import Mathlib.Data.List.Induction
import SchemaRegistry.Host.Inventory

/-!
# Declarations

The annotations of a host type and its ancestors, evaluated and put in a row, are its declarations: those of
the nearest class first, and those of one class in their order. The inventory has one field for each name that
some declaration makes a field, and it is the first such declaration that counts. `exists_ofHint_eq` says so of
every host type whose annotations all evaluate, and that its inventory is read.

Classes are read one after the other, and so are the declarations of each. `takeClasses_eq_takeEach` makes one walk
over the declarations of this, `Taken` is all that can come of one of them, and `Progress.Shows` is the invariant.
-/

namespace SchemaRegistry

/-! ## Names that fields can have -/

namespace FieldName

/-- The name can be that of a field: it is a text without halves of characters, and not empty. -/
def IsProper (name : FieldName) : Prop := ∃ s ∈ name.text?, s ≠ ""

instance : DecidablePred IsProper := fun name => inferInstanceAs (Decidable (∃ s ∈ name.text?, s ≠ ""))

/-- The text of a name is the name. -/
theorem eq_of_text?_eq_some {name : FieldName} {s : String} (h : name.text? = some s) : name = text s := by
  match name, h with
  | text ⟨_, []⟩, rfl => rfl

theorem isProper_iff {name : FieldName} : name.IsProper ↔ ∃ s : String, s ≠ "" ∧ name = text s := by
  constructor
  · rintro ⟨s, hname, hs⟩
    exact ⟨s, hs, eq_of_text?_eq_some hname⟩
  · rintro ⟨s, hs, rfl⟩
    exact ⟨s, rfl, hs⟩

end FieldName

namespace Inventory

/-! ## Declarations -/

/-- A class annotates a name with a hint. -/
structure Declaration where
  owner : HostClass
  name : FieldName
  hint : Hint

namespace Declaration

/-- The declaration is taken for that of a field: its name is public, and it is no class variable. -/
def isField (d : Declaration) : Bool := isPublicField d.name d.hint

/-- What the inventory says of the field. -/
def line (d : Declaration) : FieldName × Category := (d.name, d.hint.inferred)

/-- The first field declaration of each name. -/
def firsts : List Declaration → List Declaration
  | [] => []
  | d :: rest => if d.isField then d :: (firsts rest).filter (·.name != d.name) else firsts rest

/-- Every declaration that is taken for that of a field has a name that can be that of a field. -/
def Named (ds : List Declaration) : Prop := ∀ d ∈ ds, d.isField → d.name.IsProper

instance (ds : List Declaration) : Decidable (Named ds) :=
  inferInstanceAs (Decidable (∀ d ∈ ds, d.isField → d.name.IsProper))

end Declaration

/-- The declarations of a class with these hints. -/
def declared (c : HostClass) (hints : List (FieldName × Hint)) : List Declaration :=
  hints.map fun (name, h) => ⟨c, name, h⟩

/-- The declarations of a row of classes, those of frameworks left out. -/
def declarations (w : Workspace) : List HostClass → Except Failure (List Declaration)
  | [] => .ok []
  | c :: rest =>
    match isFramework w.classes c with
    | .error e => .error e
    | .ok true => declarations w rest
    | .ok false =>
      match (annotationsOf c).bind (hintsOf w c) with
      | .error e => .error e
      | .ok hints => (declarations w rest).map (declared c hints ++ ·)

/-- What an inventory says of a field. -/
def fieldLine (f : HostField) : FieldName × Category := (.text f.name.text, f.category)

/-! ## First declarations -/

namespace Declaration

variable {d : Declaration} {name : FieldName} {ds more : List Declaration}

theorem firsts_cons_of_field (h : d.isField) :
    firsts (d :: ds) = d :: (firsts ds).filter (·.name != d.name) := if_pos h

theorem firsts_cons_of_not_field (h : ¬ d.isField) : firsts (d :: ds) = firsts ds := if_neg h

/-- The first field declaration of a name is the one that is found by the name. -/
theorem mem_firsts_iff :
    d ∈ firsts ds ∧ d.name = name ↔ ds.find? (fun d => d.name == name && d.isField) = some d := by
  induction ds with
  | nil => simp [firsts]
  | cons head rest ih =>
    by_cases hfield : head.isField
    · rw [firsts_cons_of_field hfield, List.mem_cons, List.mem_filter, bne_iff_ne]
      by_cases hname : head.name = name
      · -- The head is found, and what the rest has of this name does not count.
        rw [List.find?_cons_of_pos (by simp [hname, hfield]), Option.some.injEq]
        constructor
        · rintro ⟨rfl | ⟨-, hother⟩, hsame⟩
          · rfl
          · exact absurd (hsame.trans hname.symm) hother
        · rintro rfl
          exact ⟨.inl rfl, hname⟩
      · rw [List.find?_cons_of_neg (by simp [hname]), ← ih]
        constructor
        · rintro ⟨rfl | ⟨hmem, -⟩, hsame⟩
          · exact absurd hsame hname
          · exact ⟨hmem, hsame⟩
        · rintro ⟨hmem, rfl⟩
          exact ⟨.inr ⟨hmem, fun hsame => hname hsame.symm⟩, rfl⟩
    · rw [firsts_cons_of_not_field hfield, List.find?_cons_of_neg (by simp [hfield]), ih]

/-- Behind other declarations, those count whose names none of the others has. -/
theorem firsts_append :
    firsts (ds ++ more) =
      firsts ds ++ (firsts more).filter fun d => !(firsts ds).any (·.name == d.name) := by
  induction ds with
  | nil =>
    rw [List.nil_append]
    exact (List.filter_eq_self.mpr (by simp [firsts])).symm
  | cons head rest ih =>
    rw [List.cons_append]
    by_cases hfield : head.isField
    · rw [firsts_cons_of_field hfield, firsts_cons_of_field hfield, ih, List.filter_append,
        List.filter_filter, List.cons_append]
      congr 2
      refine List.filter_congr fun d _ => ?_
      -- A name that the head has is taken, and any other is taken before just if it is behind the head.
      rw [Bool.eq_iff_iff]
      simp only [Bool.and_eq_true, bne_iff_ne, Bool.not_eq_true', List.any_eq_false, beq_iff_eq,
        List.mem_cons, List.mem_filter, forall_eq_or_imp]
      constructor
      · rintro ⟨hname, hrest⟩
        exact ⟨fun h => hname h.symm, fun other hother => hrest other hother.1⟩
      · rintro ⟨hname, hrest⟩
        refine ⟨fun h => hname h.symm, fun other hother hsame => ?_⟩
        exact hrest other ⟨hother, fun h => hname (h.symm.trans hsame)⟩ hsame
    · rw [firsts_cons_of_not_field hfield, firsts_cons_of_not_field hfield, ih]

end Declaration

/-! ## Repeated declarations -/

namespace Declaration

variable {d : Declaration} {ds : List Declaration} {name : FieldName}

/-- One of the declarations is that of a field of this name. -/
def anyField (ds : List Declaration) (name : FieldName) : Bool := ds.any fun d => d.name == name && d.isField

/-- The field declarations whose name an earlier field declaration has, or those whose name none has. -/
def kept (repeated : Bool) (ds : List Declaration) : List Declaration :=
  (ds.zipIdx.filter fun x => x.1.isField && anyField (ds.take x.2) x.1.name == repeated).map Prod.fst

theorem anyField_concat (ds : List Declaration) (d : Declaration) (name : FieldName) :
    anyField (ds ++ [d]) name = (anyField ds name || (d.name == name && d.isField)) := by
  simp [anyField]

theorem kept_concat (repeated : Bool) (ds : List Declaration) (d : Declaration) :
    kept repeated (ds ++ [d]) =
      kept repeated ds ++ if d.isField && anyField ds d.name == repeated then [d] else [] := by
  -- What stands before a position stays the same when a declaration is added at the end.
  have hbefore : ∀ x ∈ ds.zipIdx, (ds ++ [d]).take x.2 = ds.take x.2 := by
    intro x hx
    have hbound : x.2 < 0 + ds.length := (List.mem_zipIdx hx).2.1
    exact List.take_append_of_le_length (by omega)
  have hlast : (ds ++ [d]).take ds.length = ds := List.take_left
  rw [kept, kept, List.zipIdx_append, List.filter_append, List.map_append, Nat.zero_add, List.zipIdx_singleton]
  congr 1
  · exact congrArg (List.map Prod.fst) (List.filter_congr fun x hx => by rw [hbefore x hx])
  · rw [List.filter_cons, hlast]
    split <;> rfl

theorem mem_of_mem_kept {repeated : Bool} (h : d ∈ kept repeated ds) : d ∈ ds ∧ d.isField := by
  obtain ⟨x, hx, rfl⟩ := List.mem_map.mp h
  obtain ⟨hmem, hfield⟩ := List.mem_filter.mp hx
  exact ⟨List.fst_mem_of_mem_zipIdx hmem, (Bool.and_eq_true_iff.mp hfield).1⟩

/-- Whether there is a field of a name shows in those that repeat none. -/
theorem any_kept (ds : List Declaration) (name : FieldName) :
    ((kept false ds).any fun d => d.name == name) = anyField ds name := by
  induction ds using List.reverseRecOn with
  | nil => rfl
  | append_singleton ds d ih =>
    rw [kept_concat, List.any_append, ih, anyField_concat]
    -- A declaration of another name changes nothing, and one of this name counts unless there is one already.
    by_cases hname : d.name = name
    · subst hname
      cases d.isField <;> cases anyField ds d.name <;> simp
    · have hother : (d.name == name) = false := beq_eq_false_iff_ne.mpr hname
      split <;> simp [hother]

/-- The first field declaration of each name is the one that repeats none. -/
theorem firsts_eq_kept (ds : List Declaration) : firsts ds = kept false ds := by
  induction ds using List.reverseRecOn with
  | nil => rfl
  | append_singleton ds d ih =>
    rw [firsts_append, ih, kept_concat]
    congr 1
    by_cases hfield : d.isField
    · have hone : firsts [d] = [d] := firsts_cons_of_field hfield
      rw [hone, List.filter_cons, any_kept, hfield]
      cases anyField ds d.name <;> rfl
    · have hnone : firsts [d] = [] := firsts_cons_of_not_field hfield
      simp [hnone, hfield]

/-- Each field declaration either repeats an earlier one or does not. -/
theorem length_kept (ds : List Declaration) :
    (kept false ds).length + (kept true ds).length = (ds.filter (·.isField)).length := by
  induction ds using List.reverseRecOn with
  | nil => rfl
  | append_singleton ds d ih =>
    rw [kept_concat, kept_concat, List.filter_append, List.length_append, List.length_append,
      List.length_append, ← ih]
    cases hfield : d.isField <;> cases anyField ds d.name <;> simp [hfield] <;> omega

end Declaration

/-! ## Taking one declaration -/

open Declaration

variable {host : String} {p q : Progress} {d : Declaration}

/-- The name of a field is proper. -/
theorem isProper_of_has {name : FieldName} (h : p.has name = true) : name.IsProper := by
  obtain ⟨f, -, hname⟩ := List.any_eq_true.mp h
  rw [← beq_iff_eq.mp hname]
  refine ⟨f.name.text, rfl, fun hempty => ?_⟩
  have hleast := f.name.fits.1
  rw [hempty] at hleast
  exact absurd hleast (by decide)

/-- A proper name makes a field. -/
theorem exists_ofName_eq {name : FieldName} (h : Hint) (hname : name.IsProper) :
    ∃ f, HostField.ofName h.inferred name = .ok f ∧ fieldLine f = (name, h.inferred) := by
  obtain ⟨s, hs, rfl⟩ := FieldName.isProper_iff.mp hname
  have hlength : 1 ≤ s.length := by
    rw [Nat.one_le_iff_ne_zero, ne_eq, String.length_eq_zero_iff]
    exact hs
  have hfits : fieldNameLimits.Admit s.length := ⟨hlength, by simp [fieldNameLimits]⟩
  refine ⟨⟨⟨s, hfits⟩, h.inferred⟩, ?_, rfl⟩
  have hbounded : Checked.bounded fieldNameLimits (.str s) = .accepted ⟨s, hfits⟩ := by
    rw [Checked.bounded, Checked.text, Checked.andThen, dif_pos hfits]
  simp only [HostField.ofName, Json.ofLoose_ofText, hbounded]
  rfl

/-- A name that makes a field is proper, and it is the name of the field. -/
theorem isProper_of_ofName {name : FieldName} {category : Category} {f : HostField}
    (h : HostField.ofName category name = .ok f) : name.IsProper ∧ name = .text f.name.text := by
  match name, h with
  | .text ⟨s, []⟩, h =>
    have hs : Json.ofLoose ⟨s, []⟩ = .str s := rfl
    simp only [HostField.ofName, hs, Checked.bounded, Checked.text, Checked.andThen] at h
    split at h
    · rename_i hfits
      cases h
      refine ⟨⟨s, rfl, ?_⟩, rfl⟩
      rintro rfl
      exact absurd hfits.1 (by decide)
    · cases h
  | .text ⟨s, _ :: _⟩, h => cases h
  | .noText, h => cases h
  | .odd .., h => cases h

/-- No other name makes one. -/
theorem exists_ofName_eq_error {name : FieldName} (category : Category) (hname : ¬ name.IsProper) :
    ∃ e, HostField.ofName category name = .error e := by
  cases h : HostField.ofName category name with
  | error e => exact ⟨e, rfl⟩
  | ok f => exact absurd (isProper_of_ofName h).1 hname

/-- Takes a declaration. -/
def take (host : String) (p : Progress) (d : Declaration) : Except Failure Unit × Progress :=
  takeHints host d.owner p [(d.name, d.hint)]

/-- All that can come of taking a declaration. -/
inductive Taken (host : String) (p : Progress) (d : Declaration) : Except Failure Unit × Progress → Prop where
  /-- What is no field is passed over. -/
  | passedOver (field : d.isField = false) : Taken host p d (.ok (), p)
  /-- A field whose name is taken is recorded. -/
  | recorded (field : d.isField) (has : p.has d.name = true) :
      Taken host p d (.ok (), { p with logs := p.logs ++ [shadowed host d.owner d.name] })
  /-- A field of a new name is added. -/
  | added (field : d.isField) (new : p.has d.name = false) (named : d.name.IsProper) {f : HostField}
      (shown : fieldLine f = d.line) : Taken host p d (.ok (), { p with fields := p.fields ++ [f] })
  /-- A name that cannot be that of a field fails. -/
  | refused (field : d.isField) (unnamed : ¬ d.name.IsProper) {e : Failure}
      (fails : HostField.ofName d.hint.inferred d.name = .error e) : Taken host p d (.error e, p)

theorem taken_take (host : String) (p : Progress) (d : Declaration) : Taken host p d (take host p d) := by
  rw [take, takeHints]
  cases hfield : d.isField with
  | false =>
    rw [isField] at hfield
    rw [hfield]
    exact .passedOver hfield
  | true =>
    rw [isField] at hfield
    rw [hfield, Bool.not_true, if_neg Bool.false_ne_true]
    cases hhas : p.has d.name with
    | true => exact .recorded hfield hhas
    | false =>
      rw [if_neg Bool.false_ne_true]
      by_cases hname : d.name.IsProper
      · obtain ⟨f, hf, hshown⟩ := exists_ofName_eq d.hint hname
        rw [hf]
        exact .added hfield hhas hname hshown
      · obtain ⟨e, he⟩ := exists_ofName_eq_error d.hint.inferred hname
        rw [he]
        exact .refused hfield hname he

/-! ## Taking one declaration after the other -/

/-- Takes some declarations, up to the first that fails. -/
def takeEach (host : String) : Progress → List Declaration → Except Failure Unit × Progress
  | p, [] => (.ok (), p)
  | p, d :: rest =>
    match take host p d with
    | (.ok (), p) => takeEach host p rest
    | failed => failed

theorem takeEach_append (p : Progress) (ds more : List Declaration) :
    takeEach host p (ds ++ more) =
      match takeEach host p ds with
      | (.ok (), p) => takeEach host p more
      | failed => failed := by
  induction ds generalizing p with
  | nil => rfl
  | cons d rest ih =>
    rw [List.cons_append, takeEach, takeEach]
    cases take host p d with
    | mk answer q =>
      cases answer with
      | error e => rfl
      | ok _ => exact ih q

/-- The declarations of a class are taken one after the other. -/
theorem takeHints_eq_takeEach (c : HostClass) (hints : List (FieldName × Hint)) (p : Progress) :
    takeHints host c p hints = takeEach host p (declared c hints) := by
  induction hints generalizing p with
  | nil => rfl
  | cons head rest ih =>
    obtain ⟨name, h⟩ := head
    simp only [declared, List.map_cons, takeEach, take, takeHints]
    split
    · exact ih p
    · split
      · exact ih _
      · split
        · rfl
        · exact ih _

/-- The declarations of a row of classes are taken one after the other. -/
theorem takeClasses_eq_takeEach {w : Workspace} {row : List HostClass} {ds : List Declaration}
    (hds : declarations w row = .ok ds) (p : Progress) : takeClasses w host p row = takeEach host p ds := by
  induction row generalizing ds p with
  | nil =>
    cases hds
    rfl
  | cons c rest ih =>
    rw [declarations] at hds
    rw [takeClasses]
    cases hframework : isFramework w.classes c with
    | error e => simp [hframework] at hds
    | ok isKnown =>
      cases isKnown with
      | true =>
        simp only [hframework] at hds
        exact ih hds p
      | false =>
        simp only [hframework] at hds
        cases hhints : (annotationsOf c).bind (hintsOf w c) with
        | error e => simp [hhints] at hds
        | ok hints =>
          simp only [hhints] at hds
          obtain ⟨more, hmore, rfl⟩ : ∃ more, declarations w rest = .ok more ∧ declared c hints ++ more = ds := by
            cases hrest : declarations w rest with
            | error e => simp [hrest, Except.map] at hds
            | ok more => exact ⟨more, rfl, by simpa [hrest, Except.map] using hds⟩
          simp only [takeClass, hhints, takeHints_eq_takeEach, takeEach_append]
          cases takeEach host p (declared c hints) with
          | mk answer q =>
            cases answer with
            | error e => rfl
            | ok _ => exact ih hmore q

/-! ## Collecting fields -/

/-- The state shows what declarations were taken: its fields are those that repeat no name, and its records those
that do. -/
structure Progress.Shows (host : String) (ds : List Declaration) (p : Progress) : Prop where
  fields : p.fields.map fieldLine = (kept false ds).map line
  logs : p.logs = (kept true ds).map fun d => shadowed host d.owner d.name

theorem Progress.Shows.start (host : String) : Progress.Shows host [] ⟨[], []⟩ := ⟨rfl, rfl⟩

theorem Progress.Shows.has_eq {ds : List Declaration} (h : p.Shows host ds) (name : FieldName) :
    p.has name = anyField ds name := by
  have hlines : p.has name = (p.fields.map fieldLine).any fun entry => entry.1 == name := by
    rw [List.any_map]
    rfl
  rw [hlines, h.fields, List.any_map, ← any_kept]
  rfl

/-- One declaration more is shown. -/
theorem Progress.Shows.take {ds : List Declaration} (h : p.Shows host ds)
    (htaken : Taken host p d (.ok (), q)) : q.Shows host (ds ++ [d]) := by
  have hhas : p.has d.name = anyField ds d.name := h.has_eq d.name
  constructor
  · rw [kept_concat, List.map_append, ← h.fields]
    cases htaken with
    | passedOver hfield => simp [hfield]
    | recorded hfield hold => simp [hfield, ← hhas, hold]
    | added hfield hnew _ hshown => simp [hfield, ← hhas, hnew, hshown]
  · rw [kept_concat, List.map_append, ← h.logs]
    cases htaken with
    | passedOver hfield => simp [hfield]
    | recorded hfield hold => simp [hfield, ← hhas, hold]
    | added hfield hnew => simp [hfield, ← hhas, hnew]

/-- Named declarations are all taken and shown. -/
theorem takeEach_shows {seen ds : List Declaration} (hseen : p.Shows host seen) (hnamed : Named ds) :
    ∃ q, takeEach host p ds = (.ok (), q) ∧ q.Shows host (seen ++ ds) := by
  induction ds generalizing seen p with
  | nil => exact ⟨p, rfl, by rwa [List.append_nil]⟩
  | cons d rest ih =>
    obtain ⟨hhead, hrest⟩ := List.forall_mem_cons.mp hnamed
    -- Only a name that is not proper fails.
    obtain ⟨q, hq⟩ : ∃ q, Inventory.take host p d = (.ok (), q) := by
      have htaken : Taken host p d (Inventory.take host p d) := taken_take host p d
      generalize Inventory.take host p d = result at htaken ⊢
      cases htaken with
      | refused hfield hname => exact absurd (hhead hfield) hname
      | _ => exact ⟨_, rfl⟩
    have hshows : q.Shows host (seen ++ [d]) := hseen.take (hq ▸ taken_take host p d)
    obtain ⟨q', hq', hshows'⟩ := ih hshows hrest
    rw [List.append_assoc, List.singleton_append] at hshows'
    exact ⟨q', by rw [takeEach, hq, ← hq'], hshows'⟩

/-- The declarations of a row of classes, all of them named, are taken and shown. -/
theorem takeClasses_shows {w : Workspace} (host : String) {row : List HostClass} {ds : List Declaration}
    (hds : declarations w row = .ok ds) (hnamed : Named ds) :
    ∃ p, takeClasses w host ⟨[], []⟩ row = (.ok (), p) ∧ p.Shows host ds := by
  rw [takeClasses_eq_takeEach hds]
  exact takeEach_shows (.start host) hnamed

theorem host?_cls (w : Workspace) (c : ClassRef) (supertype : Option Hint) :
    host? w (.cls c supertype) = some (hostName w c, c) := rfl

/-- The inventory of a class whose annotations all evaluate is read, and it has the first field declaration of
each name. -/
theorem exists_ofHint_eq {w : Workspace} {h : Hint} {host : String} {c : ClassRef} {ds : List Declaration}
    (hhost : host? w h = some (host, c)) (hds : declarations w (w.classes.lineage c) = .ok ds) (hnamed : Named ds) :
    ∃ fields logs, ofHint w h = (.ok fields, logs) ∧ fields.map fieldLine = (firsts ds).map line := by
  obtain ⟨p, hp, hshows⟩ := takeClasses_shows host hds hnamed
  exact ⟨p.fields, p.logs, by simp only [ofHint, hhost, ofClass, hp], by rw [hshows.fields, firsts_eq_kept]⟩

end Inventory

end SchemaRegistry
