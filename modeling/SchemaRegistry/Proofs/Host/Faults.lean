import SchemaRegistry.Proofs.Conformance.Logging
import SchemaRegistry.Proofs.Host.Building
import SchemaRegistry.Proofs.Host.PlainFailures
import SchemaRegistry.Proofs.Host.Shadowing

/-!
# Faults of host types

A host type is read class by class, the nearest first, and the first fault ends it. A class can be at fault in four
ways (`HasFault`): it cannot be told whether it belongs to a framework, its annotations are no table, one of them
does not evaluate, or the key of one that is taken for a field cannot be its name. All annotations of a class are
evaluated before any is looked at, so it does not matter whether the one at fault is private, a variable of the class
itself or hidden by a nearer one.

Some kinds of failure to evaluate mean that the host type cannot be read. They are reported with its name, and not
with that of the class at fault. `reading_ends_at_first_fault` puts this together: what is reported is what the first
fault comes to, and without one there is an inventory.
-/

namespace SchemaRegistry.Inventory

open Declaration

/-! ## First faults of lists -/

section First

variable {α β : Type} {sound : α → Prop} {fails : α → β → Prop} {a : α} {b : β} {l : List α}

/-- An item of the list fails like this, and those before it are sound. -/
def First (sound : α → Prop) (fails : α → β → Prop) (l : List α) (b : β) : Prop :=
  ∃ before a after, l = before ++ a :: after ∧ (∀ x ∈ before, sound x) ∧ fails a b

theorem First.head (h : fails a b) : First sound fails (a :: l) b := ⟨[], a, l, rfl, List.forall_mem_nil _, h⟩

theorem First.tail (ha : sound a) (h : First sound fails l b) : First sound fails (a :: l) b := by
  obtain ⟨before, x, after, rfl, hbefore, hx⟩ := h
  exact ⟨a :: before, x, after, rfl, List.forall_mem_cons.mpr ⟨ha, hbefore⟩, hx⟩

theorem not_first_nil : ¬ First sound fails [] b := by
  rintro ⟨before, x, after, h, -⟩
  cases before <;> cases h

theorem first_cons_iff : First sound fails (a :: l) b ↔ fails a b ∨ sound a ∧ First sound fails l b := by
  constructor
  · rintro ⟨_ | ⟨y, before⟩, x, after, h, hbefore, hx⟩
    · cases h
      exact .inl hx
    · cases h
      obtain ⟨ha, hbefore⟩ := List.forall_mem_cons.mp hbefore
      exact .inr ⟨ha, before, x, after, rfl, hbefore, hx⟩
  · rintro (h | ⟨ha, h⟩)
    · exact .head h
    · exact .tail ha h

end First

/-! ## Faults of classes -/

/-- What keeps a class from being read. -/
inductive Fault where
  /-- It cannot be told whether the class belongs to a framework. -/
  | home (e : Failure)
  /-- The annotations of the class are no table. -/
  | table (e : Failure)
  /-- An annotation does not evaluate. -/
  | evaluation (e : Failure)
  /-- The key of an annotation that is taken for that of a field cannot be the name of one. -/
  | name (e : Failure)

/-- What is reported of a fault, for a host type of this name. Failures to evaluate of some kinds mean that the host
type cannot be read, and whatever else fails is reported as it is. -/
def Fault.failure (host : String) : Fault → Failure
  | home e => e
  | table e => e
  | evaluation e => if e.isAmong resolutionKinds then .service (.unresolvable host e.message) else e
  | name e => e

/-- The annotation of a class evaluates. -/
def Evaluates (w : Workspace) (k : HostClass) (x : AnnotationKey × Annotation) : Prop :=
  ∃ h, w.evaluate k x.2 = .ok h

/-- The first of the annotations that does not evaluate fails like this. -/
def FirstFails (w : Workspace) (k : HostClass) (annotations : List (AnnotationKey × Annotation)) (e : Failure) :
    Prop :=
  First (Evaluates w k) (fun x e => w.evaluate k x.2 = .error e) annotations e

/-- The declaration is passed over, or its name can be that of a field. -/
def Admits (d : Declaration) : Prop := d.isField → d.name.IsProper

/-- The first of the declarations that is taken for that of a field but cannot be one fails like this. -/
def FirstRefused (ds : List Declaration) (e : Failure) : Prop :=
  First Admits (fun d e => d.isField ∧ HostField.ofName d.hint.inferred d.name = .error e) ds e

/-- The class has this fault. -/
inductive HasFault (w : Workspace) (k : HostClass) : Fault → Prop
  | home {e : Failure} (unclear : isFramework w.classes k = .error e) : HasFault w k (.home e)
  | table {e : Failure} (own : isFramework w.classes k = .ok false) (misused : annotationsOf k = .error e) :
      HasFault w k (.table e)
  | evaluation {annotations : List (AnnotationKey × Annotation)} {e : Failure}
      (own : isFramework w.classes k = .ok false) (table : annotationsOf k = .ok annotations)
      (fails : FirstFails w k annotations e) : HasFault w k (.evaluation e)
  | name {annotations : List (AnnotationKey × Annotation)} {hints : List (FieldName × Hint)} {e : Failure}
      (own : isFramework w.classes k = .ok false) (table : annotationsOf k = .ok annotations)
      (evaluated : hintsOf w k annotations = .ok hints) (refused : FirstRefused (declared k hints) e) :
      HasFault w k (.name e)

/-- The class belongs to a framework, or its annotations evaluate and every field has a name. -/
def Readable (w : Workspace) (k : HostClass) : Prop :=
  isFramework w.classes k = .ok true ∨
    isFramework w.classes k = .ok false ∧
      ∃ hints, (annotationsOf k).bind (hintsOf w k) = .ok hints ∧ Named (declared k hints)

/-- Of the classes in the row, the nearest that has a fault has this one. -/
abbrev FirstFault (w : Workspace) (row : List HostClass) (fault : Fault) : Prop :=
  First (Readable w) (HasFault w) row fault

variable {w : Workspace} {k : HostClass} {host : String} {fault : Fault} {row : List HostClass}

/-! ## Annotations -/

theorem hintsOf_eq_error_of_firstFails {annotations : List (AnnotationKey × Annotation)} {e : Failure}
    (h : FirstFails w k annotations e) : hintsOf w k annotations = .error e := by
  induction annotations with
  | nil => exact (not_first_nil h).elim
  | cons x rest ih =>
    obtain ⟨key, annotation⟩ := x
    rcases first_cons_iff.mp h with hx | ⟨⟨hint, hhint⟩, hrest⟩
    · simp only [hintsOf, hx]
    · simp only [hintsOf, hhint, ih hrest]

/-- The annotations of a class evaluate, or there is a first that does not. -/
theorem exists_hintsOf_or_firstFails (w : Workspace) (k : HostClass) (annotations : List (AnnotationKey × Annotation)) :
    (∃ hints, hintsOf w k annotations = .ok hints) ∨ ∃ e, FirstFails w k annotations e := by
  induction annotations with
  | nil => exact .inl ⟨[], rfl⟩
  | cons x rest ih =>
    obtain ⟨key, annotation⟩ := x
    cases hx : w.evaluate k annotation with
    | error e => exact .inr ⟨e, .head hx⟩
    | ok hint =>
      rcases ih with ⟨hints, hhints⟩ | ⟨e, he⟩
      · exact .inl ⟨(.ofKey w.classes key, hint) :: hints, by simp only [hintsOf, hx, hhints]⟩
      · exact .inr ⟨e, .tail ⟨hint, hx⟩ he⟩

/-- All declarations are passed over or have names that fields can have, or there is a first that has none. -/
theorem named_or_firstRefused (ds : List Declaration) : Named ds ∨ ∃ e, FirstRefused ds e := by
  induction ds with
  | nil => exact .inl (List.forall_mem_nil _)
  | cons d rest ih =>
    by_cases hd : Admits d
    · rcases ih with hrest | ⟨e, hrest⟩
      · exact .inl (List.forall_mem_cons.mpr ⟨hd, hrest⟩)
      · exact .inr ⟨e, .tail hd hrest⟩
    · obtain ⟨hfield, hname⟩ := Classical.not_imp.mp hd
      obtain ⟨e, he⟩ := exists_ofName_eq_error d.hint.inferred hname
      exact .inr ⟨e, .head ⟨hfield, he⟩⟩

/-! ## One class -/

/-- A declaration whose name can be that of a field does not end the walk. -/
theorem exists_take_eq (host : String) (p : Progress) {d : Declaration} (hd : Admits d) :
    ∃ q, take host p d = (.ok (), q) := by
  have htaken : Taken host p d (take host p d) := taken_take host p d
  generalize take host p d = result at htaken ⊢
  cases htaken with
  | refused hfield hname => exact absurd (hd hfield) hname
  | _ => exact ⟨_, rfl⟩

theorem fst_takeEach_of_named {ds : List Declaration} (h : Named ds) (p : Progress) :
    (takeEach host p ds).1 = .ok () := by
  induction ds generalizing p with
  | nil => rfl
  | cons d rest ih =>
    obtain ⟨hd, hrest⟩ := List.forall_mem_cons.mp h
    obtain ⟨q, hq⟩ := exists_take_eq host p hd
    rw [takeEach, hq]
    exact ih hrest q

/-- The first name that is refused ends the walk. -/
theorem fst_takeEach_of_firstRefused {ds : List Declaration} {e : Failure} (h : FirstRefused ds e) (p : Progress) :
    (takeEach host p ds).1 = .error e := by
  induction ds generalizing p with
  | nil => exact (not_first_nil h).elim
  | cons d rest ih =>
    rw [takeEach]
    rcases first_cons_iff.mp h with ⟨hfield, hfails⟩ | ⟨hd, hrest⟩
    · have hname : ¬ d.name.IsProper := by
        intro hname
        obtain ⟨f, hf, -⟩ := exists_ofName_eq d.hint hname
        rw [hf] at hfails
        cases hfails
      obtain ⟨e', he', htake⟩ := take_eq_error host p hfield hname
      obtain rfl := Except.error.inj (hfails.symm.trans he')
      rw [htake]
    · obtain ⟨q, hq⟩ := exists_take_eq host p hd
      rw [hq]
      exact ih hrest q

/-- A class at fault ends the walk, and the fault is reported. -/
theorem fst_takeClasses_of_hasFault (h : HasFault w k fault) (p : Progress) (rest : List HostClass) :
    (takeClasses w host p (k :: rest)).1 = .error (fault.failure host) := by
  rw [takeClasses]
  cases h with
  | home hunclear => rw [hunclear]; rfl
  | table hown hmisused =>
    -- What is no table is reported as it is.
    have hplain : ∀ e, annotationsOf k = .error e → failureOf host e = e := by
      intro e he
      unfold annotationsOf at he
      split at he <;> cases he
      rfl
    rw [hown]
    simp only [takeClass, hmisused, Except.bind, hplain _ hmisused]
    rfl
  | evaluation hown htable hfails =>
    rw [hown]
    simp only [takeClass, htable, Except.bind, hintsOf_eq_error_of_firstFails hfails]
    simp only [failureOf, Fault.failure]
  | @name annotations hints e hown htable hhints hrefused =>
    rw [hown]
    have hfails : (takeEach host p (declared k hints)).1 = .error e := fst_takeEach_of_firstRefused hrefused p
    simp only [takeClass, htable, Except.bind, hhints, takeHints_eq_takeEach]
    generalize takeEach host p (declared k hints) = result at hfails ⊢
    obtain ⟨answer, q⟩ := result
    dsimp only at hfails
    rw [hfails]
    rfl

/-- A readable class is passed. -/
theorem exists_takeClasses_eq_of_readable (host : String) (h : Readable w k) (p : Progress) (rest : List HostClass) :
    ∃ q, takeClasses w host p (k :: rest) = takeClasses w host q rest := by
  rcases h with hknown | ⟨hown, hints, hhints, hnamed⟩
  · exact ⟨p, by simp only [takeClasses, hknown]⟩
  · have hok : (takeEach host p (declared k hints)).1 = .ok () := fst_takeEach_of_named hnamed p
    refine ⟨(takeEach host p (declared k hints)).2, ?_⟩
    simp only [takeClasses, hown, takeClass, hhints, takeHints_eq_takeEach]
    generalize takeEach host p (declared k hints) = result at hok ⊢
    obtain ⟨answer, q⟩ := result
    dsimp only at hok
    rw [hok]

theorem readable_or_hasFault (w : Workspace) (k : HostClass) : Readable w k ∨ ∃ fault, HasFault w k fault := by
  cases hframework : isFramework w.classes k with
  | error e => exact .inr ⟨_, .home hframework⟩
  | ok known =>
    cases known with
    | true => exact .inl (.inl hframework)
    | false =>
      cases htable : annotationsOf k with
      | error e => exact .inr ⟨_, .table hframework htable⟩
      | ok annotations =>
        rcases exists_hintsOf_or_firstFails w k annotations with ⟨hints, hhints⟩ | ⟨e, he⟩
        · rcases named_or_firstRefused (declared k hints) with hnamed | ⟨e, he⟩
          · exact .inl (.inr ⟨hframework, hints, by rw [htable]; exact hhints, hnamed⟩)
          · exact .inr ⟨_, .name hframework htable hhints he⟩
        · exact .inr ⟨_, .evaluation hframework htable he⟩

/-! ## Rows of classes -/

theorem fst_takeClasses_of_firstFault (h : FirstFault w row fault) (p : Progress) :
    (takeClasses w host p row).1 = .error (fault.failure host) := by
  induction row generalizing p with
  | nil => exact (not_first_nil h).elim
  | cons k rest ih =>
    rcases first_cons_iff.mp h with hk | ⟨hk, hrest⟩
    · exact fst_takeClasses_of_hasFault hk p rest
    · obtain ⟨q, hq⟩ := exists_takeClasses_eq_of_readable host hk p rest
      rw [hq]
      exact ih hrest q

theorem fst_takeClasses_of_readable (h : ∀ k ∈ row, Readable w k) (p : Progress) :
    (takeClasses w host p row).1 = .ok () := by
  induction row generalizing p with
  | nil => rfl
  | cons k rest ih =>
    obtain ⟨hk, hrest⟩ := List.forall_mem_cons.mp h
    obtain ⟨q, hq⟩ := exists_takeClasses_eq_of_readable host hk p rest
    rw [hq]
    exact ih hrest q

/-- All classes of a row are readable, or there is a first fault. -/
theorem readable_or_firstFault (w : Workspace) (row : List HostClass) :
    (∀ k ∈ row, Readable w k) ∨ ∃ fault, FirstFault w row fault := by
  induction row with
  | nil => exact .inl (List.forall_mem_nil _)
  | cons k rest ih =>
    rcases readable_or_hasFault w k with hk | ⟨fault, hk⟩
    · rcases ih with hrest | ⟨fault, hrest⟩
      · exact .inl (List.forall_mem_cons.mpr ⟨hk, hrest⟩)
      · exact .inr ⟨fault, .tail hk hrest⟩
    · exact .inr ⟨fault, .head hk⟩

theorem fst_takeClasses_eq_ok_iff (host : String) (p : Progress) :
    (takeClasses w host p row).1 = .ok () ↔ ∀ k ∈ row, Readable w k := by
  refine ⟨fun hok => ?_, fun h => fst_takeClasses_of_readable h p⟩
  rcases readable_or_firstFault w row with h | ⟨fault, h⟩
  · exact h
  · rw [fst_takeClasses_of_firstFault h] at hok
    cases hok

theorem fst_takeClasses_eq_error_iff (p : Progress) (e : Failure) :
    (takeClasses w host p row).1 = .error e ↔ ∃ fault, FirstFault w row fault ∧ fault.failure host = e := by
  constructor
  · intro herror
    rcases readable_or_firstFault w row with h | ⟨fault, h⟩
    · rw [fst_takeClasses_of_readable h] at herror
      cases herror
    · rw [fst_takeClasses_of_firstFault h] at herror
      exact ⟨fault, h, Except.error.inj herror⟩
  · rintro ⟨fault, h, rfl⟩
    exact fst_takeClasses_of_firstFault h p

/-! ## Reports -/

theorem failsPlainly_isFramework (u : Universe) (k : HostClass) : FailsPlainly (isFramework u k) := by
  unfold isFramework
  split
  · exact .ok _
  · exact .bind (u.failsPlainly_memberAt _ _) fun _ => .ok _

theorem failsPlainly_annotationsOf (k : HostClass) : FailsPlainly (annotationsOf k) := by
  unfold annotationsOf
  split
  · exact .ok _
  · exact .ok _
  · exact .raised _ _

theorem failsPlainly_ofName (category : Category) (name : FieldName) :
    FailsPlainly (HostField.ofName category name) := by
  unfold HostField.ofName
  split
  · generalize (Checked.bounded fieldNameLimits _).under _ = checked
    cases checked with
    | accepted _ => exact .ok _
    | refused _ => exact fun _ h => nomatch h
  · exact fun _ h => nomatch h
  · exact .raised _ _

/-- What is reported as unresolvable is an annotation that fails to evaluate in one of some ways. -/
theorem HasFault.failure_eq_unresolvable_iff (h : HasFault w k fault) {named message : String} :
    fault.failure host = .service (.unresolvable named message) ↔
      (named = host ∧ ∃ e, fault = .evaluation e ∧ e.isAmong resolutionKinds ∧ e.message = message) ∨
        fault = .evaluation (.service (.unresolvable named message)) := by
  cases h with
  | home hunclear => simp [Fault.failure, (failsPlainly_isFramework w.classes k).ne_service hunclear]
  | table hown hmisused => simp [Fault.failure, (failsPlainly_annotationsOf k).ne_service hmisused]
  | @evaluation annotations e hown htable hfails =>
    by_cases hkind : e.isAmong resolutionKinds
    · rw [Fault.failure, if_pos hkind]
      constructor
      · rintro ⟨⟩
        exact .inl ⟨rfl, e, rfl, hkind, rfl⟩
      · rintro (⟨rfl, _, ⟨⟩, -, rfl⟩ | ⟨⟨⟩⟩)
        · rfl
        · cases hkind
    · simp [Fault.failure, hkind]
  | @name annotations hints e hown htable hhints hrefused =>
    obtain ⟨before, d, after, -, -, -, hd⟩ := hrefused
    simp [Fault.failure, (failsPlainly_ofName d.hint.inferred d.name).ne_service hd]

variable {h : Hint} {c : ClassRef}

/-- If no text fails to evaluate with an error of the service, no fault is that an annotation does. -/
theorem HasFault.evaluation_ne_service (h : HasFault w k fault)
    (hplain : ∀ s text, FailsPlainly (w.evaluator s text)) (error : ServiceError) :
    fault ≠ .evaluation (.service error) := by
  rintro rfl
  cases h with
  | evaluation hown htable hfails =>
    obtain ⟨before, x, after, -, -, hx⟩ := hfails
    exact Workspace.failsPlainly_evaluate hplain k x.2 error hx

/-- A host type fails to be read just if it has a fault, and the first is reported. -/
theorem fst_ofHint_eq_error_iff (hhost : host? w h = some (host, c)) {e : Failure} :
    (ofHint w h).1 = .error e ↔ ∃ fault, FirstFault w (w.classes.lineage c) fault ∧ fault.failure host = e := by
  rw [ofHint_fst hhost, ← fst_takeClasses_eq_error_iff ⟨[], []⟩]
  cases (takeClasses w host ⟨[], []⟩ (w.classes.lineage c)).1 <;> simp [Except.map]

/-- The inventory of a host type without a fault has the first field declaration of each name. -/
theorem exists_inventory_of_readable (hhost : host? w h = some (host, c))
    (hreadable : ∀ k ∈ w.classes.lineage c, Readable w k) :
    ∃ ds fields, declarations w (w.classes.lineage c) = .ok ds ∧ (ofHint w h).1 = .ok fields ∧
      fields.map fieldLine = (firsts ds).map line := by
  have hlegible : ∀ k ∈ w.classes.lineage c, Legible w k := by
    intro k hk
    rcases hreadable k hk with hknown | ⟨hown, hints, hhints, -⟩
    · exact ⟨true, hknown, nofun⟩
    · exact ⟨false, hown, fun _ => ⟨hints, hhints⟩⟩
  obtain ⟨ds, hds⟩ := exists_declarations_iff.mpr hlegible
  have htaken := (fst_takeClasses_eq_ok_iff host ⟨[], []⟩).mpr hreadable
  rw [takeClasses_eq_takeEach hds] at htaken
  have hnamed : Named ds := named_of_takeEach (Prod.ext htaken rfl)
  obtain ⟨fields, logs, hread, hfields⟩ := exists_ofHint_eq hhost hds hnamed
  exact ⟨ds, fields, hds, by rw [hread], hfields⟩

/-- An inventory that is read has the first field declaration of each name. -/
theorem exists_declarations_of_ofHint (hhost : host? w h = some (host, c)) {fields : List HostField}
    (hread : (ofHint w h).1 = .ok fields) :
    ∃ ds, declarations w (w.classes.lineage c) = .ok ds ∧ fields.map fieldLine = (firsts ds).map line := by
  have hreadable : ∀ k ∈ w.classes.lineage c, Readable w k := by
    rcases readable_or_firstFault w (w.classes.lineage c) with hreadable | ⟨fault, hfirst⟩
    · exact hreadable
    · rw [(fst_ofHint_eq_error_iff hhost).mpr ⟨fault, hfirst, rfl⟩] at hread
      cases hread
  obtain ⟨ds, fields', hds, hread', hfields⟩ := exists_inventory_of_readable hhost hreadable
  rw [hread] at hread'
  cases hread'
  exact ⟨ds, hds, hfields⟩

/-- A car has a private number whose annotation needs a name that stands for nothing. A taxi is a car with a number of
its own. What a van can load is a division by zero, and a field of a bus has no name. -/
def carForms : List ClassForm :=
  let declare (name : String) (bases : List Form) (annotations : List (KeyForm × AnnotationForm)) : ClassForm :=
    ⟨name, name, "app", bases, annotations, [], [], false⟩
  [declare "Car" [] [("_number", .failing "NameError" "name 'Plate' is not defined")],
   declare "Taxi" [.declared "Car"] [("_number", .hint (.named "int"))],
   declare "Van" [] [("load", .failing "ZeroDivisionError" "division by zero")],
   declare "Bus" [] [("", .hint (.named "int"))]]

/-- The workspace in which they are declared. -/
def carWorkspace : Workspace := (Workspace.ofForms carForms).toOption.getD .initial

theorem evaluator_carWorkspace : carWorkspace.evaluator = Scope.read := (Workspace.built_getD_ofForms carForms _).2

/-- The class of a name. -/
def carClass (name : String) : ClassRef :=
  ((carWorkspace.declared.find? fun known => known.name == name).map ModuleClass.ref).getD ClassRef.noneType

/-- The computation fails in this way. -/
def failsAs {α : Type} (kind message : String) : Except Failure α → Bool
  | .error (.raised kind' message') => kind' == kind && message' == message
  | _ => false

theorem eq_error_of_failsAs {α : Type} {kind message : String} {x : Except Failure α}
    (h : failsAs kind message x) : x = .error (.raised kind message) := by
  unfold failsAs at h
  split at h
  · obtain ⟨hkind, hmessage⟩ := Bool.and_eq_true_iff.mp h
    rw [beq_iff_eq.mp hkind, beq_iff_eq.mp hmessage]
  · cases h

/-- The class belongs to no framework and is readable. -/
def reads (k : HostClass) : Bool :=
  (isFramework carWorkspace.classes k).toOption == some false &&
    ((annotationsOf k).bind (hintsOf carWorkspace k)).toOption.any fun hints => Named (declared k hints)

/-- The only annotation of a class that belongs to no framework fails in this way. -/
def onlyFails (kind message : String) (k : HostClass) : Bool :=
  (isFramework carWorkspace.classes k).toOption == some false &&
    match k.annotations with
    | .table [(_, annotation)] => failsAs kind message (carWorkspace.evaluate k annotation)
    | _ => false

/-- The first class of the row that does not read has a single annotation, which fails in this way. -/
def stopsAt (kind message : String) : List HostClass → Bool
  | [] => false
  | k :: rest => onlyFails kind message k || reads k && stopsAt kind message rest

variable {kind message : String}

theorem readable_of_reads (h : reads k) : Readable carWorkspace k := by
  obtain ⟨hown, hnamed⟩ := Bool.and_eq_true_iff.mp h
  obtain ⟨hints, hhints, hnamed⟩ := (Option.any_eq_true ..).mp hnamed
  exact .inr ⟨eq_ok_of_toOption (beq_iff_eq.mp hown), hints, eq_ok_of_toOption hhints, of_decide_eq_true hnamed⟩

theorem hasFault_of_onlyFails (h : onlyFails kind message k) :
    HasFault carWorkspace k (.evaluation (.raised kind message)) := by
  obtain ⟨hown, hfails⟩ := Bool.and_eq_true_iff.mp h
  split at hfails
  case h_1 name annotation htable =>
    have htable : annotationsOf k = .ok [(name, annotation)] := by rw [annotationsOf, htable]
    exact .evaluation (eq_ok_of_toOption (beq_iff_eq.mp hown)) htable (.head (eq_error_of_failsAs hfails))
  case h_2 => cases hfails

theorem firstFault_of_stopsAt (h : stopsAt kind message row) :
    FirstFault carWorkspace row (.evaluation (.raised kind message)) := by
  induction row with
  | nil => cases h
  | cons k rest ih =>
    rcases Bool.or_eq_true_iff.mp h with hk | hrest
    · exact .head (hasFault_of_onlyFails hk)
    · obtain ⟨hk, hrest⟩ := Bool.and_eq_true_iff.mp hrest
      exact .tail (readable_of_reads hk) (ih hrest)

end SchemaRegistry.Inventory
