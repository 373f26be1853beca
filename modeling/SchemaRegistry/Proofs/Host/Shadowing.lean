import SchemaRegistry.Proofs.Host.Subclass

/-!
# The shape of an inventory

The inventory of a class and what is logged while it is read share out the field declarations of the class and
its ancestors: one that repeats no name is a field, and one that does is a record. Both are in the order of the
declarations. `inventory_shape` says so of every class whose annotations all evaluate. Such an inventory is read
just if every key of an annotation that is taken for the name of a field can be one.
-/

namespace SchemaRegistry.Inventory

open Declaration

/-! ## Evaluated declarations -/

/-- It can be told whether the class belongs to a framework, and if it does not its annotations evaluate. -/
def Legible (w : Workspace) (c : HostClass) : Prop :=
  ∃ known, isFramework w.classes c = .ok known ∧
    (known = false → ∃ hints, (annotationsOf c).bind (hintsOf w c) = .ok hints)

/-- A row of classes has declarations just if each class is legible. -/
theorem exists_declarations_iff {w : Workspace} {row : List HostClass} :
    (∃ ds, declarations w row = .ok ds) ↔ ∀ c ∈ row, Legible w c := by
  induction row with
  | nil => simp [declarations]
  | cons c rest ih =>
    rw [List.forall_mem_cons, ← ih, declarations, Legible]
    cases isFramework w.classes c with
    | error e => simp
    | ok known =>
      cases known with
      | true => simp
      | false =>
        cases (annotationsOf c).bind (hintsOf w c) with
        | error e => simp
        | ok hints => cases declarations w rest <;> simp [Except.map]

/-! ## Names that are refused -/

variable {host : String} {p : Progress} {d : Declaration} {ds : List Declaration}

/-- A name that cannot be that of a field fails, whatever was read before it. -/
theorem take_eq_error (host : String) (p : Progress) (hfield : d.isField) (hname : ¬ d.name.IsProper) :
    ∃ e, HostField.ofName d.hint.inferred d.name = .error e ∧ take host p d = (.error e, p) := by
  have htaken : Taken host p d (take host p d) := taken_take host p d
  generalize take host p d = result at htaken ⊢
  cases htaken with
  | passedOver hother => exact absurd hfield (by simp [hother])
  | recorded _ hhas => exact absurd (isProper_of_has hhas) hname
  | added _ _ hnamed => exact absurd hnamed hname
  | refused _ _ hfails => exact ⟨_, hfails, rfl⟩

/-- Declarations that are all taken are named. -/
theorem named_of_takeEach {q : Progress} (h : takeEach host p ds = (.ok (), q)) : Named ds := by
  induction ds generalizing p with
  | nil => exact List.forall_mem_nil _
  | cons d rest ih =>
    rw [takeEach] at h
    refine List.forall_mem_cons.mpr ⟨fun hfield => by_contra fun hname => ?_, ?_⟩
    · obtain ⟨e, -, he⟩ := take_eq_error host p hfield hname
      rw [he] at h
      cases h
    · cases htake : take host p d with
      | mk answer p' =>
        rw [htake] at h
        cases answer with
        | error e => cases h
        | ok _ => exact ih h

/-! ## The shape -/

/-- The names of declarations that repeat none are all different. -/
theorem nodup_kept (ds : List Declaration) : ((kept false ds).map Declaration.name).Nodup := by
  induction ds using List.reverseRecOn with
  | nil => exact List.nodup_nil
  | append_singleton ds d ih =>
    rw [kept_concat]
    split
    case isFalse => rwa [List.append_nil]
    case isTrue hnew =>
      -- No declaration before it has the name, so none that was kept has it.
      have hfree : anyField ds d.name = false := beq_iff_eq.mp (Bool.and_eq_true_iff.mp hnew).2
      rw [← any_kept, List.any_eq_false] at hfree
      rw [List.map_append, List.map_singleton, List.nodup_append]
      refine ⟨ih, List.nodup_singleton _, ?_⟩
      intro name hname other hother hsame
      obtain ⟨d', hd', rfl⟩ := List.mem_map.mp hname
      obtain rfl := List.mem_singleton.mp hother
      exact hfree d' hd' (beq_iff_eq.mpr hsame)

/-- The fields and records that the declarations of a host type of this name come to. -/
structure Shape (host : String) (ds : List Declaration) (fields : List HostField) (logs : List LogRecord) :
    Prop where
  /-- No two fields have the same name. -/
  distinct : (fields.map fun f => f.name.text).Nodup
  /-- No name of a field begins with an underscore. -/
  isPublic : ∀ f ∈ fields, IsPublic f.name.text
  /-- The fields are the field declarations that repeat no name, in their order, each with the category of its
  hint. -/
  fields_eq : fields.map fieldLine = (kept false ds).map line
  /-- The records are the field declarations that repeat a name, in their order. -/
  logs_eq : logs = (kept true ds).map fun d => shadowed host d.owner d.name
  /-- Each field declaration is a field or a record. -/
  count : fields.length + logs.length = (ds.filter (·.isField)).length

theorem Progress.Shows.shape (h : p.Shows host ds) : Shape host ds p.fields p.logs where
  distinct := by
    let nameOf (name : String) : FieldName := .text name
    have hnames : (p.fields.map fieldLine).map Prod.fst = (p.fields.map fun f => f.name.text).map nameOf := by
      rw [List.map_map, List.map_map]
      rfl
    refine List.Nodup.of_map nameOf ?_
    rw [← hnames, h.fields, List.map_map]
    exact nodup_kept ds
  isPublic := by
    intro f hf
    have hline : fieldLine f ∈ p.fields.map fieldLine := List.mem_map_of_mem hf
    rw [h.fields] at hline
    obtain ⟨d, hd, hsame⟩ := List.mem_map.mp hline
    have hfield : d.isField = true := (mem_of_mem_kept hd).2
    have hname : d.name = .text f.name.text := congrArg Prod.fst hsame
    rw [isField, hname] at hfield
    exact bne_iff_ne.mp (Bool.and_eq_true_iff.mp hfield).1
  fields_eq := h.fields
  logs_eq := h.logs
  count := by
    have hfields : p.fields.length = (kept false ds).length := by
      simpa only [List.length_map] using congrArg List.length h.fields
    rw [hfields, h.logs, List.length_map, length_kept]

/-- A class is read just if its row is taken, and the inventory and what is logged are the state it is taken to. -/
theorem ofHint_eq_ok_iff {w : Workspace} {h : Hint} {c : ClassRef} (hhost : host? w h = some (host, c))
    {fields : List HostField} {logs : List LogRecord} :
    ofHint w h = (.ok fields, logs) ↔
      takeClasses w host ⟨[], []⟩ (w.classes.lineage c) = (.ok (), ⟨fields, logs⟩) := by
  rw [ofHint, hhost]
  dsimp only
  rw [ofClass]
  cases takeClasses w host ⟨[], []⟩ (w.classes.lineage c) with
  | mk answer p =>
    obtain ⟨read, records⟩ := p
    cases answer <;> simp

/-- A yacht is both a sailing and a motor vessel, and these are vessels. All of them have a crew. Some names are
private, and one is that of a class variable. -/
def vesselForms : List ClassForm :=
  let declare (name : String) (bases : List Form) (fields : List (String × Form)) : ClassForm :=
    ⟨name, name, "app", bases, fields.map fun (field, hint) => (field, .hint hint), [], [], false⟩
  [declare "Vessel" [] [("hull", .named "str"), ("_keel", .named "int"), ("crew", .named "int")],
   declare "Sailing" [.declared "Vessel"] [("sails", .named "int"), ("crew", .named "str")],
   declare "Motor" [.declared "Vessel"] [("crew", .named "float"), ("fuel", .named "float"), ("hull", .named "int")],
   declare "Yacht" [.declared "Sailing", .declared "Motor"]
     [("flag", .classVar (some (.named "str"))), ("crew", .named "bool"), ("berths", .named "int")]]

/-- The workspace in which they are declared. -/
def vesselWorkspace : Workspace := (Workspace.ofForms vesselForms).toOption.getD .initial

/-- The class of yachts, which is declared last. -/
def vesselClass : ClassRef :=
  (vesselWorkspace.declared.head?.map ModuleClass.ref).getD ClassRef.noneType

/-- The annotations of a class of this name and its ancestors evaluate, and yet it has no inventory. -/
def Unread (name : String) : Prop :=
  ∃ c ∈ Conformance.streetClass? name,
    (∀ k ∈ Conformance.streetWorkspace.classes.lineage c.ref,
      ∃ hints, (annotationsOf k).bind (hintsOf Conformance.streetWorkspace k) = .ok hints) ∧
    ∀ fields logs, ofHint Conformance.streetWorkspace (.cls c.ref none) ≠ (.ok fields, logs)

theorem unread_of_checked {name : String}
    (h : ∃ c ∈ Conformance.streetClass? name,
      (∀ k ∈ Conformance.streetWorkspace.classes.lineage c.ref,
        ((annotationsOf k).bind (hintsOf Conformance.streetWorkspace k)).toOption.isSome) ∧
      (ofHint Conformance.streetWorkspace (.cls c.ref none)).1.toOption.isNone) : Unread name := by
  obtain ⟨c, hc, hevaluate, hnone⟩ := h
  refine ⟨c, hc, fun k hk => ?_, fun fields logs hok => ?_⟩
  · obtain ⟨hints, hhints⟩ := Option.isSome_iff_exists.mp (hevaluate k hk)
    exact ⟨hints, eq_ok_of_toOption hhints⟩
  · rw [hok] at hnone
    cases hnone

end SchemaRegistry.Inventory
