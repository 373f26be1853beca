import Mathlib.Data.List.Forall2
import SchemaRegistry.Proofs.Registry.OneWriter

/-!
# The log is an audit trail

As long as one writer acts, the records of the registry tell exactly what became of the table. A command that
succeeds in registering or deciding leaves one record, any other command leaves none. Read as a whole, the log
has for each row the record of its registration and, if the row was decided on, a later record of the decision,
with the state and the person that the row names; and it has no others.

References do not tell keys apart, since a part of a key may have colons, and so two records may read the same.
The trail therefore says of each record which row it belongs to.
-/

namespace SchemaRegistry

/-! ## Records -/

/-- The records of the registry that a command has to leave with an answer. -/
inductive Command.Reports : Command → Except Failure Reply → List LogRecord → Prop where
  | registered {request : Json} {rival : Option Command} {r : Registration} {reply : Reply}
      (hrequest : Registration.check request = .accepted r) :
      Reports (create request rival) (.ok reply)
        [⟨.info, .registry, "Registered schema " ++ r.key.reference ++ " by " ++ r.createdBy.text⟩]
  | moved {d : Decision} {key : Json} {k : Key} {updatedBy : String} {rival : Option Command} {reply : Reply}
      (hkey : Key.check key = .accepted k) :
      Reports (decide d key updatedBy rival) (.ok reply)
        [⟨.info, .registry,
          "Schema " ++ k.reference ++ " moved CREATED -> " ++ d.state.word ++ " by " ++ updatedBy⟩]
  | failed {c : Command} {e : Failure} : Reports c (.error e) []
  | read {c : Command} {answer : Except Failure Reply} (hreads : c.Reads) : Reports c answer []

/-- The two things that can become of a row. -/
inductive Milestone where
  | registered
  | moved
deriving DecidableEq

namespace Row

/-- The reference of the schema in a row. -/
def reference (r : Row) : String := r.space ++ ":" ++ r.name ++ ":" ++ r.version

/-- The row was decided on. -/
def Final (r : Row) : Prop := r.state = .known .approved ∨ r.state = .known .rejected

/-- The record tells what became of the row. -/
inductive Tells (r : Row) : Milestone → LogRecord → Prop where
  | registered :
      Tells r .registered
        ⟨.info, .registry, "Registered schema " ++ r.reference ++ " by " ++ r.createdBy⟩
  | moved {state : State} {updatedBy : String} (hfinal : r.Final) (hstate : r.state = .known state)
      (hupdatedBy : r.updatedBy = some updatedBy) :
      Tells r .moved
        ⟨.info, .registry,
          "Schema " ++ r.reference ++ " moved CREATED -> " ++ state.word ++ " by " ++ updatedBy⟩

end Row

/-- The trail names the row of each record of a log and what the record tells of it. -/
structure AuditTrail (t : Table) (log : List LogRecord) (trail : List (Row × Milestone)) : Prop where
  tells : List.Forall₂ (fun entry record => entry.1.Tells entry.2 record) trail log
  /-- The rows that were registered are those of the table. -/
  registered_iff : ∀ r, (r, .registered) ∈ trail ↔ r ∈ t.rows
  /-- The rows that were moved are those that are in a final state. -/
  moved_iff : ∀ r, (r, .moved) ∈ trail ↔ r ∈ t.rows ∧ r.Final
  /-- Of two records of one row the earlier tells of its registration and the later of the decision, so there
  are no two of a kind. -/
  in_order : trail.Pairwise fun earlier later =>
    earlier.1.id = later.1.id → earlier.2 = .registered ∧ later.2 = .moved

/-! ## Rows that are decided on -/

namespace Row

open Table

variable {r : Row} {id : Int} {d : Decision} {updatedBy : String} {now : Time.DateTime}

theorem not_isOpen_of_final (h : r.Final) : ¬ isOpen id r := by
  intro hopen
  rw [isOpen, Bool.and_eq_true, beq_iff_eq, beq_iff_eq] at hopen
  rcases h with h | h <;> simp [h] at hopen

/-- The row of an entry is in a final state just if there is a ruling on the entry. -/
theorem final_row {e : Entry} : (e.row id).Final ↔ e.ruling ≠ none := by
  constructor
  · intro hfinal hopen
    exact not_isOpen_of_final hfinal (isOpen_row.mpr ⟨rfl, hopen⟩)
  · intro hruling
    obtain ⟨ruling, hruling⟩ := Option.ne_none_iff_exists'.mp hruling
    have hstate : (e.row id).state = .known ruling.decision.state := congrArg _ (Entry.state_of_ruling hruling)
    rw [Final, hstate]
    cases ruling.decision
    · exact .inl rfl
    · exact .inr rfl

theorem final_rule (id : Int) (e : Entry) (ruling : Ruling) : ((e.rule ruling).row id).Final :=
  final_row.mpr (Option.some_ne_none _)

/-- What a decision on the row with a number makes of a row. -/
def after (id : Int) (d : Decision) (updatedBy : String) (now : Time.DateTime) (r : Row) : Row :=
  if isOpen id r then decidedRow d updatedBy now r else r

@[simp]
theorem after_id (r : Row) : (r.after id d updatedBy now).id = r.id := by
  unfold after
  split <;> rfl

theorem after_of_final (h : r.Final) : r.after id d updatedBy now = r :=
  if_neg (not_isOpen_of_final h)

theorem after_of_ne (h : r.id ≠ id) : r.after id d updatedBy now = r := by
  refine if_neg fun hopen => h ?_
  rw [isOpen, Bool.and_eq_true, beq_iff_eq] at hopen
  exact hopen.1

theorem after_row {e : Entry} (hopen : e.ruling = none) :
    (e.row id).after id d updatedBy now = (e.rule (.made d updatedBy now)).row id := by
  rw [after, if_pos (isOpen_row.mpr ⟨rfl, hopen⟩), decidedRow_row hopen]

/-- What was told of a row before a decision is still true of it. -/
theorem Tells.after {m : Milestone} {record : LogRecord} (h : r.Tells m record) :
    (r.after id d updatedBy now).Tells m record := by
  cases h with
  | registered =>
    unfold Row.after
    split
    · exact .registered
    · exact .registered
  | moved hfinal hstate hupdatedBy =>
    rw [after_of_final hfinal]
    exact .moved hfinal hstate hupdatedBy

end Row

/-! ## The trail goes on -/

namespace AuditTrail

variable {t : Table} {log : List LogRecord} {trail : List (Row × Milestone)}

theorem empty : AuditTrail .empty [] [] where
  tells := .nil
  registered_iff := by simp [Table.empty]
  moved_iff := by simp [Table.empty]
  in_order := .nil

/-- No row has two records of a kind. -/
theorem nodup (h : AuditTrail t log trail) : trail.Nodup := by
  refine h.in_order.imp fun {earlier later} hentries heq => ?_
  obtain ⟨hearlier, hlater⟩ := hentries (by rw [heq])
  rw [heq, hlater] at hearlier
  cases hearlier

/-- Every record belongs to a row of the table. -/
theorem mem_rows (h : AuditTrail t log trail) {entry : Row × Milestone} (hentry : entry ∈ trail) :
    entry.1 ∈ t.rows := by
  obtain ⟨r, _ | _⟩ := entry
  · exact (h.registered_iff r).mp hentry
  · exact ((h.moved_iff r).mp hentry).1

/-- The trail after a registration. -/
theorem add (h : AuditTrail t log trail) (d : Table.Draft) :
    AuditTrail (t.add d) (log ++ [Registry.registeredRecord d.registration])
      (trail ++ [(Table.newRow t.nextId d, .registered)]) where
  tells := List.rel_append h.tells (.cons .registered .nil)
  registered_iff := by
    intro r
    simp [Table.add, h.registered_iff]
  moved_iff := by
    intro r
    have hnew : ¬ (Table.newRow t.nextId d).Final := by
      rw [Table.newRow_eq, Row.final_row, not_not]
      rfl
    simp only [List.mem_append, h.moved_iff, Table.add, List.mem_singleton]
    constructor
    · rintro (⟨hr, hfinal⟩ | hr)
      · exact ⟨.inl hr, hfinal⟩
      · cases hr
    · rintro ⟨hr | rfl, hfinal⟩
      · exact .inl ⟨hr, hfinal⟩
      · exact absurd hfinal hnew
  in_order := by
    refine List.pairwise_append.mpr ⟨h.in_order, List.pairwise_singleton .., ?_⟩
    intro earlier hearlier later hlater hid
    obtain rfl := List.mem_singleton.mp hlater
    -- The number of the new row is the number of no row before.
    have hmem := List.mem_map_of_mem (f := Row.id) (h.mem_rows hearlier)
    rw [hid] at hmem
    exact absurd hmem t.nextId_not_mem

variable {id : Int} {e : Entry}

/-- A row of the table that has the number of an open entry was registered and not moved. -/
theorem eq_registered_of_open (h : AuditTrail t log trail) (hsound : t.Sound) (he : t.Holds id e)
    (hopen : e.ruling = none) {entry : Row × Milestone} (hentry : entry ∈ trail) (hid : entry.1.id = id) :
    entry.2 = .registered := by
  have hrow : entry.1 = e.row id := List.inj_on_of_nodup_map hsound.ids (h.mem_rows hentry) he hid
  obtain ⟨r, _ | _⟩ := entry
  · rfl
  · obtain rfl : r = e.row id := hrow
    exact absurd hopen (Row.final_row.mp ((h.moved_iff _).mp hentry).2)

/-- The trail after a decision on an open entry. -/
theorem ruled (h : AuditTrail t log trail) (hsound : t.Sound) (he : t.Holds id e) (hopen : e.ruling = none)
    (d : Decision) (updatedBy : String) (now : Time.DateTime) :
    AuditTrail (t.ruled id d updatedBy now) (log ++ [Registry.movedRecord e.key d updatedBy])
      (trail.map (fun entry => (entry.1.after id d updatedBy now, entry.2)) ++
        [((e.rule (.made d updatedBy now)).row id, .moved)]) where
  tells := by
    refine List.rel_append ?_ (.cons (.moved (Row.final_rule ..) rfl rfl) .nil)
    exact List.forall₂_map_left_iff.mpr (h.tells.imp fun _ _ htells => htells.after)
  registered_iff := by
    intro r
    show _ ↔ r ∈ t.rows.map (Row.after id d updatedBy now)
    simp [h.registered_iff]
  moved_iff := by
    intro r
    show _ ↔ r ∈ t.rows.map (Row.after id d updatedBy now) ∧ r.Final
    rw [List.mem_append, List.mem_singleton]
    -- The row that is decided on was open, so the rows that were moved before are left as they are.
    constructor
    · rintro (hmoved | hnew)
      · obtain ⟨⟨r, _⟩, hentry, heq⟩ := List.mem_map.mp hmoved
        obtain ⟨rfl, rfl⟩ := Prod.mk.inj heq
        obtain ⟨hr, hfinal⟩ := (h.moved_iff r).mp hentry
        refine ⟨List.mem_map_of_mem hr, ?_⟩
        rwa [Row.after_of_final hfinal]
      · obtain ⟨rfl, -⟩ := Prod.mk.inj hnew
        exact ⟨List.mem_map.mpr ⟨e.row id, he, Row.after_row hopen⟩, Row.final_rule ..⟩
    · rintro ⟨hafter, hfinal⟩
      obtain ⟨r, hr, rfl⟩ := List.mem_map.mp hafter
      by_cases hid : r.id = id
      · obtain rfl : r = e.row id := List.inj_on_of_nodup_map hsound.ids hr he hid
        rw [Row.after_row hopen]
        exact .inr rfl
      · have hsame : r.after id d updatedBy now = r := Row.after_of_ne hid
        rw [hsame] at hfinal ⊢
        exact .inl (List.mem_map.mpr ⟨(r, .moved), (h.moved_iff r).mpr ⟨hr, hfinal⟩, by rw [hsame]⟩)
  in_order := by
    refine List.pairwise_append.mpr ⟨?_, List.pairwise_singleton .., ?_⟩
    · rw [List.pairwise_map]
      simpa using h.in_order
    · intro earlier hearlier later hlater hid
      obtain rfl := List.mem_singleton.mp hlater
      obtain ⟨entry, hentry, rfl⟩ := List.mem_map.mp hearlier
      have hregistered : entry.2 = .registered :=
        h.eq_registered_of_open hsound he hopen hentry (by simpa using hid)
      exact ⟨hregistered, rfl⟩

/-- Whatever a command does, the trail goes on with what the registry writes. -/
theorem goes_on (h : AuditTrail t log trail) (hsound : t.Sound) {c : Command} {outcome : Outcome Reply}
    (heffect : c.Effect t outcome) :
    ∃ trail, AuditTrail outcome.table (log ++ LogRecord.ofRegistry outcome.logs) trail := by
  cases heffect with
  | still _ hlogs =>
    dsimp only
    rw [hlogs, List.append_nil]
    exact ⟨trail, h⟩
  | registers => exact ⟨_, h.add _⟩
  | decides _ he hopen => exact ⟨_, h.ruled hsound he hopen ..⟩

/-- A trail up to some turns goes on over all of them. -/
theorem goes_on_run {turns : List Turn} {outcomes : List (Except Failure Reply × List LogRecord)} {t' : Table}
    (hrun : Turn.Run t turns outcomes t') (h : AuditTrail t log trail) :
    ∃ trail, AuditTrail t' (log ++ outcomes.flatMap fun outcome => LogRecord.ofRegistry outcome.2) trail := by
  induction hrun generalizing log trail with
  | nil =>
    rw [List.flatMap_nil, List.append_nil]
    exact ⟨trail, h⟩
  | cons hsound heffect _ ih =>
    obtain ⟨trail, h⟩ := h.goes_on hsound heffect
    rw [List.flatMap_cons, ← List.append_assoc]
    exact ih h

end AuditTrail

/-! ## The log of a run -/

/-- What a command leaves in the log is what it has to report with its answer. -/
theorem Command.Effect.reports {t : Table} {c : Command} {outcome : Outcome Reply} (h : c.Effect t outcome) :
    c.Reports outcome.answer (LogRecord.ofRegistry outcome.logs) := by
  cases h with
  | still hstill hlogs =>
    dsimp only
    rw [hlogs]
    rcases hstill with hreads | ⟨e, rfl⟩
    · exact .read hreads
    · exact .failed
  | registers hrequest => exact .registered hrequest
  | decides hkey => exact .moved hkey

theorem Turn.Run.reports {t t' : Table} {turns : List Turn}
    {outcomes : List (Except Failure Reply × List LogRecord)} (h : Run t turns outcomes t') :
    List.Forall₂ (fun turn outcome => turn.command.Reports outcome.1 (LogRecord.ofRegistry outcome.2)) turns
      outcomes := by
  induction h with
  | nil => exact .nil
  | cons _ heffect _ ih => exact .cons heffect.reports ih

/-- The records of the registry that turns leave from the empty table on. -/
def Turn.registryLog (turns : List Turn) : List LogRecord :=
  (Turn.runAll turns [] .empty).flatMap fun outcome => LogRecord.ofRegistry outcome.2

/-- **The log is an exact audit trail.** From the empty table on, and with one writer, each command that succeeds
in registering or deciding leaves its record and any other leaves none. So the records of the whole run are
one for each row of the table and a later one for each that is in a final state. -/
theorem Turn.audit_trail {turns : List Turn} (h : ∀ turn ∈ turns, turn.command.Alone) :
    List.Forall₂ (fun turn outcome => turn.command.Reports outcome.1 (LogRecord.ofRegistry outcome.2)) turns
        (Turn.runAll turns [] .empty) ∧
      ∃ trail, AuditTrail (Turn.leave turns [] .empty).2 (Turn.registryLog turns) trail ∧ trail.Nodup ∧
        (Turn.leave turns [] .empty).2.rows.Nodup := by
  have hidle : Sessions.Idle [] := fun _ hsession => absurd hsession List.not_mem_nil
  have hrun := Turn.run_of_alone h Table.Sound.empty hidle
  obtain ⟨trail, htrail⟩ := AuditTrail.empty.goes_on_run hrun
  exact ⟨hrun.reports, trail, htrail, htrail.nodup, (hrun.sound .empty).ids.of_map⟩

/-- A registration of one number. -/
def auditedRequest : Json :=
  .obj
    [("schema_key", Key.sample.toJson), ("attributes", .arr [.obj [("type", .str "LONG"), ("name", .str "id")]]),
      ("created_by", .str "ada")]

/-- A schema is registered twice, read, rejected by one person and approved too late by another, and judged. -/
def auditedTurns : List Turn :=
  [⟨"a", some Time.sessionStart, .create auditedRequest none⟩,
   ⟨"a", some Time.sessionStart, .create auditedRequest none⟩,
   ⟨"a", none, .get Key.sample.toJson⟩,
   ⟨"a", none, .decide .approve Key.sample.toJson "eve" none⟩,
   ⟨"a", some Time.sessionStart, .decide .reject Key.sample.toJson "ben" none⟩,
   ⟨"a", some Time.sessionStart, .decide .approve Key.sample.toJson "eve" none⟩,
   ⟨"a", none, .validate Key.sample.toJson [] true⟩]

/-- The log has the registration and the first decision, and nothing else. -/
theorem Turn.audit_trail_sample :
    (∀ turn ∈ auditedTurns, turn.command.Alone) ∧
      Turn.registryLog auditedTurns =
        [⟨.info, .registry, "Registered schema pay:client:v1 by ada"⟩,
          ⟨.info, .registry, "Schema pay:client:v1 moved CREATED -> REJECTED by ben"⟩] ∧
      ∃ trail, AuditTrail (Turn.leave auditedTurns [] .empty).2 (Turn.registryLog auditedTurns) trail ∧
        trail.length = 2 := by
  have halone : ∀ turn ∈ auditedTurns, turn.command.Alone := by
    simp [auditedTurns, Command.Alone]
  have hlog : Turn.registryLog auditedTurns =
      [⟨.info, .registry, "Registered schema pay:client:v1 by ada"⟩,
        ⟨.info, .registry, "Schema pay:client:v1 moved CREATED -> REJECTED by ben"⟩] := by
    decide +kernel
  obtain ⟨-, trail, htrail, -⟩ := Turn.audit_trail halone
  refine ⟨halone, hlog, trail, htrail, ?_⟩
  rw [htrail.tells.length_eq, hlog]
  rfl

end SchemaRegistry
