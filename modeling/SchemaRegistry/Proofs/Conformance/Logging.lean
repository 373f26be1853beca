import SchemaRegistry.Proofs.Conformance.Diagnoses
import SchemaRegistry.Proofs.Host.Declarations

/-!
# What is logged of a verdict

`Logged` says which records belong to a verdict, in terms of its diagnostics alone: none if there are none, one error
if the names are wrong, and one warning that counts and lists the diagnostics if categories are. `logs_agree` shows
that judging a host type leaves these records and no others. Reading the host type from its classes leaves records of
its own, which are for debugging and come first. If it cannot be read, they are all there is.
-/

namespace SchemaRegistry

/-! ## Records of reading -/

namespace Inventory

/-- Each of the records is for debugging, and says that a declaration is hidden by a nearer one. -/
def TellShadows (records : List LogRecord) : Prop :=
  ∀ r ∈ records, r.severity = .debug ∧ r.reporter = .introspection ∧
    ∃ host c, ∃ name : String, r = shadowed host c name

theorem tellShadows_nil : TellShadows [] := fun _ hr => nomatch hr

theorem tellShadows_append_shadowed {records : List LogRecord} (h : TellShadows records) (host : String)
    (c : HostClass) (name : String) : TellShadows (records ++ [shadowed host c name]) := by
  intro r hr
  rcases List.mem_append.mp hr with hr | hr
  · exact h r hr
  · obtain rfl := List.mem_singleton.mp hr
    exact ⟨rfl, rfl, host, c, name, rfl⟩

variable {p : Progress} {host : String}

theorem tellShadows_takeHints (h : TellShadows p.logs) (c : HostClass) (hints : List (FieldName × Hint)) :
    TellShadows (takeHints host c p hints).2.logs := by
  induction hints generalizing p with
  | nil => exact h
  | cons head rest ih =>
    obtain ⟨name, hint⟩ := head
    simp only [takeHints]
    split
    · exact ih h
    · split
      case isTrue hhas =>
        obtain ⟨text, -, rfl⟩ := FieldName.isProper_iff.mp (isProper_of_has hhas)
        exact ih (tellShadows_append_shadowed h host c text)
      · split
        · exact h
        · exact ih h

theorem tellShadows_takeClass (h : TellShadows p.logs) (w : Workspace) (c : HostClass) :
    TellShadows (takeClass w host p c).2.logs := by
  unfold takeClass
  split
  · exact h
  · exact tellShadows_takeHints h c _

theorem tellShadows_takeClasses (h : TellShadows p.logs) (w : Workspace) (row : List HostClass) :
    TellShadows (takeClasses w host p row).2.logs := by
  induction row generalizing p with
  | nil => exact h
  | cons c rest ih =>
    have hclass : TellShadows (takeClass w host p c).2.logs := tellShadows_takeClass h w c
    simp only [takeClasses]
    split
    · exact h
    · exact ih h
    · -- The records of a class stay, whether its declarations could all be taken or not.
      split
      case h_1 heq =>
        rw [heq] at hclass
        exact ih hclass
      case h_2 => exact hclass

theorem tellShadows_ofClass (w : Workspace) (host : String) (c : ClassRef) :
    TellShadows (ofClass w host c).2 := by
  have hrow : TellShadows (takeClasses w host ⟨[], []⟩ (w.classes.lineage c)).2.logs :=
    tellShadows_takeClasses tellShadows_nil w _
  unfold ofClass
  split
  case h_1 heq => rwa [heq] at hrow
  case h_2 heq => rwa [heq] at hrow

/-- Reading a host type leaves records for debugging only, whether it can be read or not. -/
theorem tellShadows_ofHint (w : Workspace) (h : Hint) : TellShadows (ofHint w h).2 := by
  unfold ofHint
  split
  · exact tellShadows_ofClass w _ _
  · exact tellShadows_nil

end Inventory

namespace Conformance

/-! ## Records of verdicts -/

/-- The records that belong to a verdict by a schema of this reference. -/
inductive Logged (reference : String) : Verdict → List LogRecord → Prop where
  /-- Nothing is logged of a host type that passes. -/
  | passed : Logged reference ⟨[]⟩ []
  /-- A diagnostic on names is logged as an error. -/
  | names {d : Diagnostic} (onNames : IsOnNames d) :
      Logged reference ⟨[d]⟩
        [⟨.error, .validator, "Schema " ++ reference ++ " [Validation Failed] " ++ d.message⟩]
  /-- Diagnostics on attributes are counted and listed in a single warning. -/
  | categories {ds : List Diagnostic} (some : ds ≠ []) (onAttributes : ∀ d ∈ ds, ¬ IsOnNames d) :
      Logged reference ⟨ds⟩
        [⟨.warning, .validator, "Schema " ++ reference ++ " [Validation Failed] " ++ toString ds.length ++
          " incompatible attribute(s): " ++ "; ".intercalate (ds.map Diagnostic.message)⟩]

/-- The records that belong to reading a host type, with the records `reading`, and to judging it if it was
read. -/
inductive LoggedAfter (reference : String) (reading : List LogRecord) :
    Except Failure Verdict → List LogRecord → Prop where
  | judged {v : Verdict} {records : List LogRecord} (logged : Logged reference v records) :
      LoggedAfter reference reading (.ok v) (reading ++ records)
  | unread {e : Failure} : LoggedAfter reference reading (.error e) reading

variable {schema : Details} {fields : List HostField} {reference : String} {v : Verdict}
  {records others : List LogRecord}

/-- A verdict has its own records and no others. -/
theorem Logged.unique (h : Logged reference v records) (h' : Logged reference v others) : records = others := by
  cases h with
  | passed =>
    cases h' with
    | passed => rfl
    | categories some => exact absurd rfl some
  | names onNames =>
    cases h' with
    | names => rfl
    | categories _ onAttributes => exact absurd onNames (onAttributes _ (.head _))
  | categories some onAttributes =>
    cases h' with
    | passed => exact absurd rfl some
    | names onNames => exact absurd onNames (onAttributes _ (.head _))
    | categories => rfl

theorem Logged.eq_nil_iff (h : Logged reference v records) : records = [] ↔ v.passed = true := by
  cases h with
  | passed => exact iff_of_true rfl rfl
  | names => exact iff_of_false nofun nofun
  | @categories ds some =>
    refine iff_of_false nofun fun hpassed => some ?_
    exact List.isEmpty_iff.mp hpassed

/-- What is reported of single attributes is on single attributes, however much is reported. -/
theorem not_isOnNames_of_mem_report {failFast : Bool} {items : List Attribute} {d : Diagnostic}
    (h : d ∈ report failFast (items.filterMap (checkAttribute fields))) : ¬ IsOnNames d := by
  have hmem : d ∈ items.filterMap (checkAttribute fields) := by
    unfold report at h
    split at h
    · exact List.mem_of_mem_take h
    · exact h
  obtain ⟨a, -, hcheck⟩ := List.mem_filterMap.mp hmem
  exact (names_of_checkAttribute hcheck).2

theorem logged_validate (schema : Details) (fields : List HostField) (failFast : Bool) :
    Logged schema.reference (validate schema fields failFast).1 (validate schema fields failFast).2 := by
  by_cases hfit : NamesFit schema fields
  · rw [validate_of_namesFit hfit]
    dsimp only
    -- The record is a matter of whether anything is reported, with haste or without.
    generalize hds : report failFast (schema.attributes.items.filterMap (checkAttribute fields)) = ds
    cases ds with
    | nil => exact .passed
    | cons d rest => exact .categories nofun fun d hd => not_isOnNames_of_mem_report (hds ▸ hd)
  · obtain ⟨d, hd, hvalidate⟩ := exists_validate_of_not_namesFit hfit
    rw [hvalidate]
    exact .names (isOnNames_of_checkNames hd)

/-- **Records agree with verdicts.** A verdict is logged as its diagnostics say and in no other way, so nothing is
logged just if the host type passes. Where the host type is read from classes, the records of reading it come
first. -/
theorem logs_agree (schema : Details) (failFast : Bool) :
    (∀ fields, (∀ records, (validate schema fields failFast).2 = records ↔
          Logged schema.reference (validate schema fields failFast).1 records) ∧
        ((validate schema fields failFast).2 = [] ↔ (validate schema fields failFast).1.passed = true)) ∧
      ∀ w h, Inventory.TellShadows (Inventory.ofHint w h).2 ∧
        (validateHint schema w h failFast).1 =
          (Inventory.ofHint w h).1.map (fun fields => (validate schema fields failFast).1) ∧
        LoggedAfter schema.reference (Inventory.ofHint w h).2 (validateHint schema w h failFast).1
          (validateHint schema w h failFast).2 := by
  constructor
  · intro fields
    have hlogged := logged_validate schema fields failFast
    exact ⟨fun records => ⟨fun h => h ▸ hlogged, fun h => hlogged.unique h⟩, hlogged.eq_nil_iff⟩
  · intro w h
    refine ⟨Inventory.tellShadows_ofHint w h, ?_⟩
    unfold validateHint
    split
    case h_1 fields reading hread =>
      rw [hread]
      exact ⟨rfl, .judged (logged_validate schema fields failFast)⟩
    case h_2 e reading hread =>
      rw [hread]
      exact ⟨rfl, .unread⟩

end Conformance

end SchemaRegistry
