import SchemaRegistry.Proofs.Registry.Evolution
import SchemaRegistry.Proofs.Registry.SoundOperations

/-!
# Verdicts survive storage

A host type that is judged against a stored schema is told what it would be told by the schema as it was
registered. Once a registration has succeeded, the first row of its key holds it, and it still does after every
step by which a table evolves: an insertion puts its row behind all others, and a decision changes neither the
key of a row nor what was registered. The verdict depends on nothing but the attributes and the mode.

Nothing is assumed of the other rows, of the drafts of the session or of what happens while the schema is being
registered.
-/

namespace SchemaRegistry

/-! ## Rows that hold a registration -/

/-- The first row with the key of a registration holds that registration. -/
def Table.Stores (t : Table) (r : Registration) : Prop :=
  ∃ (id : Int) (e : Entry), e.registration = r ∧ t.rowOf? r.key = some (e.row id)

namespace Table

variable {t t' : Table} {r : Registration} {d : Draft}

theorem insert?_eq_some_iff : t.insert? d = some t' ↔ t.rowOf? d.registration.key = none ∧ t' = t.add d := by
  unfold insert?
  cases t.rowOf? d.registration.key with
  | none => simp [add, eq_comm]
  | some row => simp

theorem eq_ruled_of_decide? {id : Int} {decision : Decision} {updatedBy : String}
    {now : Time.DateTime} (h : t.decide? id decision updatedBy now = some t') :
    t' = t.ruled id decision updatedBy now := by
  unfold decide? at h
  split at h
  · exact (Option.some.inj h).symm
  · cases h

/-- A decision finds the same row, which is decided on if it is the one. -/
theorem rowOf?_ruled (t : Table) (k : Key) (id : Int) (decision : Decision) (updatedBy : String)
    (now : Time.DateTime) :
    (t.ruled id decision updatedBy now).rowOf? k =
      (t.rowOf? k).map fun r => if isOpen id r then decidedRow decision updatedBy now r else r := by
  have hkey (row : Row) :
      (if isOpen id row then decidedRow decision updatedBy now row else row).hasKey k = row.hasKey k := by
    split <;> rfl
  rw [rowOf?, ruled, List.find?_map]
  simp only [Function.comp_def, hkey, rowOf?]

/-- The row of a new schema holds its registration. -/
theorem stores_of_insert? (h : t.insert? d = some t') : t'.Stores d.registration := by
  obtain ⟨hfree, rfl⟩ := insert?_eq_some_iff.mp h
  refine ⟨t.nextId, d.entry, rfl, ?_⟩
  have hkey : (newRow t.nextId d).hasKey d.registration.key := Entry.hasKey_row (e := d.entry).mpr rfl
  rw [rowOf?] at hfree
  rw [rowOf?, add, List.find?_append, hfree, Option.none_or]
  exact List.find?_cons_of_pos hkey

theorem Stores.insert? (h : t.Stores r) (hinsert : t.insert? d = some t') : t'.Stores r := by
  obtain ⟨id, e, he, hrow⟩ := h
  obtain ⟨-, rfl⟩ := insert?_eq_some_iff.mp hinsert
  refine ⟨id, e, he, ?_⟩
  rw [rowOf?] at hrow
  rw [rowOf?, add, List.find?_append, hrow]
  rfl

theorem Stores.decide? {id : Int} {decision : Decision} {updatedBy : String} {now : Time.DateTime}
    (h : t.Stores r) (hdecide : t.decide? id decision updatedBy now = some t') : t'.Stores r := by
  obtain ⟨id', e, he, hrow⟩ := h
  obtain rfl := eq_ruled_of_decide? hdecide
  by_cases hopen : isOpen id (e.row id')
  · refine ⟨id', e.rule (.made decision updatedBy now), he, ?_⟩
    rw [rowOf?_ruled, hrow, Option.map_some, if_pos hopen, decidedRow_row (isOpen_row.mp hopen).2]
  · refine ⟨id', e, he, ?_⟩
    rw [rowOf?_ruled, hrow, Option.map_some, if_neg hopen]

/-- A registration stays stored however the table evolves. -/
theorem Stores.evolves (h : t.Stores r) (hevolves : t.Evolves t') : t'.Stores r := by
  induction hevolves with
  | refl => exact h
  | insert _ d step ih => exact ih.insert? step
  | decide _ id d updatedBy now step ih => exact ih.decide? step

end Table

/-! ## Verdicts -/

/-- A verdict depends on the attributes and the mode of a schema alone. -/
theorem Conformance.validate_verdict {schema schema' : Details} (hmode : schema.mode = schema'.mode)
    (hattributes : schema.attributes = schema'.attributes) (fields : List HostField) (failFast : Bool) :
    (validate schema fields failFast).1 = (validate schema' fields failFast).1 := by
  unfold validate
  rw [hmode, hattributes]
  split <;> rfl

namespace Registry

variable {s : Stage} {now : Time.Reading} {between : Interlude} {r : Registration} {d : Details}

/-- A registration that succeeds has inserted its draft behind those of its session, and it is answered with what
is then read of its key. -/
theorem insertAll?_of_create (h : (create s now between r).answer = .ok d) :
    ∃ time, now = some time ∧
      (between s.table).table.insertAll? (s.pending ++ [⟨r, time⟩]) = some (create s now between r).table ∧
      get (create s now between r).table r.key = .ok d := by
  unfold create at h ⊢
  split at h
  case h_4 time _ =>
    refine ⟨time, rfl, ?_⟩
    dsimp only at h ⊢
    cases hfailure : (between s.table).failure with
    | some e => simp only [hfailure] at h; cases h
    | none =>
      simp only [hfailure, insertNew] at h ⊢
      cases hinsert : (between s.table).table.insertAll? (s.pending ++ [⟨r, time⟩]) with
      | none => simp only [hinsert] at h; cases h
      | some t =>
        simp only [hinsert] at h
        exact ⟨rfl, h⟩
  all_goals cases h

/-- The draft of a registration is the last to be inserted. -/
theorem insert?_of_create (h : (create s now between r).answer = .ok d) :
    ∃ time, now = some time ∧ (∃ t : Table, t.insert? ⟨r, time⟩ = some (create s now between r).table) ∧
      get (create s now between r).table r.key = .ok d := by
  obtain ⟨time, hnow, hinsert, hget⟩ := insertAll?_of_create h
  rw [Table.insertAll?_append] at hinsert
  obtain ⟨t, -, hlast⟩ := Option.bind_eq_some_iff.mp hinsert
  obtain ⟨t', hlast, hnothing⟩ := Option.bind_eq_some_iff.mp hlast
  obtain rfl : t' = (create s now between r).table := Option.some.inj hnothing
  exact ⟨time, hnow, ⟨t, hlast⟩, hget⟩

/-- A registration that succeeds is stored. -/
theorem stores_of_create (h : (create s now between r).answer = .ok d) :
    (create s now between r).table.Stores r := by
  obtain ⟨time, -, ⟨t, hinsert⟩, -⟩ := insert?_of_create h
  exact Table.stores_of_insert? hinsert

/-- A stored registration is read as details with its mode and its attributes. -/
theorem get_of_stores {t : Table} (h : t.Stores r) :
    ∃ d, get t r.key = .ok d ∧ d.mode = r.mode ∧ d.attributes = r.attributes := by
  obtain ⟨id, e, rfl, hrow⟩ := h
  refine ⟨e.details, ?_, rfl, rfl⟩
  rw [get, Table.require, Table.find?, hrow]
  simp only [Entry.load_row]
  exact e.details_loaded id

/-- **Storage never changes a verdict.** After a registration that succeeded, and after any proper commands in
any sessions, a host type is judged against the key as against any schema that has the registered mode and
attributes. -/
theorem verdict_of_registered (hcreated : (create s now between r).answer = .ok d) {turns : List Turn}
    (hproper : ∀ turn ∈ turns, turn.command.Proper) (sessions : Sessions) (pending : List Table.Draft)
    (schema : Details) (fields : List HostField) (failFast : Bool) :
    (validate ⟨(Turn.leave turns sessions (create s now between r).table).2, pending⟩ r.key fields
        failFast).answer =
      .ok (Conformance.validate { schema with mode := r.mode, attributes := r.attributes } fields
        failFast).1 := by
  have hstores := (stores_of_create hcreated).evolves (Turn.leave_evolves hproper sessions _)
  obtain ⟨d, hget, hmode, hattributes⟩ := get_of_stores hstores
  rw [validate, hget]
  exact congrArg Except.ok (Conformance.validate_verdict hmode hattributes fields failFast)

/-- A registration with attributes that need every kind of escape, in strict mode. -/
def sampleRegistration : Registration where
  key := .sample
  description := none
  format := .avro
  mode := .strict
  attributes := .sample
  createdBy := ⟨"ada", by decide⟩

/-- Turns that follow it: the same registration, a decision on it with a rival that decides the other way,
a second decision, and a verdict on no fields at all. -/
def sampleTurns : List Turn :=
  [⟨"b", some Time.sessionStart, .create sampleRegistration.toJson none⟩,
   ⟨"a", some Time.sessionStart,
    .decide .approve Key.sample.toJson "ben" (some (.decide .reject Key.sample.toJson "eve" none))⟩,
   ⟨"a", none, .decide .approve Key.sample.toJson "ben" none⟩,
   ⟨"c", none, .validate Key.sample.toJson [] true⟩]

/-- The verdict on the sample is that of its registration, whatever becomes of it. -/
theorem verdict_of_sample :
    (create ⟨.empty, []⟩ (some Time.sessionStart) .none sampleRegistration).answer =
        .ok (Table.Draft.entry ⟨sampleRegistration, Time.sessionStart⟩).details ∧
      (∀ turn ∈ sampleTurns, turn.command.Proper) ∧
      (validate
          ⟨(Turn.leave sampleTurns []
            (create ⟨.empty, []⟩ (some Time.sessionStart) .none sampleRegistration).table).2, []⟩
          sampleRegistration.key [] false).answer =
        .ok ⟨[.setMismatch sampleRegistration.attributes.names]⟩ := by
  have hcreated : (create ⟨.empty, []⟩ (some Time.sessionStart) .none sampleRegistration).answer =
      .ok (Table.Draft.entry ⟨sampleRegistration, Time.sessionStart⟩).details := by
    rw [create_of_free .empty fun _ _ he => absurd he (by simp [Table.Holds, Table.empty])]
  have hproper : ∀ turn ∈ sampleTurns, turn.command.Proper := by
    simp [sampleTurns, Command.Proper]
  refine ⟨hcreated, hproper, ?_⟩
  rw [verdict_of_registered hcreated hproper [] []
    (Table.Draft.entry ⟨sampleRegistration, Time.sessionStart⟩).details]
  rfl

end Registry

end SchemaRegistry
