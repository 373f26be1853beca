import SchemaRegistry.Proofs.Web.Visits

/-!
# What a request leaves alone

`Frame` is the effect of a request said of rows alone: all rows stay as they are, unless a schema is
registered, which puts one row behind the others, or decided on, which changes the state, the person and the
time of the last change in one row. Which of the three it is can be told from the request and the status of the
response.
-/

namespace SchemaRegistry

/-- The request only reads: it is a `GET`, or it asks for a verdict. -/
def Request.Reads (request : Request) : Prop :=
  request.method = .get ∨ ∃ s, Route.ofPath? request.target.path = some (.validation s)

namespace Service

/-- What becomes of the rows of a table when a request is served. -/
inductive Frame (t : Table) (request : Request) (served : Served) : Prop where
  /-- Nothing changes, and the response does not say that anything does. -/
  | unchanged (table : served.table = t)
      (register : ¬ (request.Registers ∧ served.response.status = 201))
      (decide : ∀ d s, ¬ (request.Decides d s ∧ served.response.status = 200))
  /-- A new row stands behind the others. It is created and has the key that the response tells, which no
  other row has. -/
  | registered (row : Row) (d : Details) (request_eq : request.Registers)
      (response : served.response = ⟨201, d.toJson⟩) (rows : served.table.rows = t.rows ++ [row])
      (hasKey : row.hasKey d.key) (fresh : ∀ other ∈ t.rows, ¬ other.hasKey d.key)
      (state : row.state = .known .created) (updatedBy : row.updatedBy = none)
      (updatedAt : row.updatedAt = none)
  /-- The row that the request addresses was created, and is now decided on. Its other columns and all other
  rows stay as they are. -/
  | decided (before after : List Row) (row : Row) (d : Decision) (s : KeySegments) (k : Key)
      (updatedBy : String) (updatedAt : StoredTime) (request_eq : request.Decides d s)
      (status : served.response.status = 200)
      (addressed : Key.ofParts s.space s.name s.version = .accepted k)
      (rows : t.rows = before ++ row :: after) (hasKey : row.hasKey k)
      (others : ∀ other ∈ before ++ after, ¬ other.hasKey k) (state : row.state = .known .created)
      (updatedBy_eq : row.updatedBy = none) (updatedAt_eq : row.updatedAt = none)
      (rows_eq : served.table.rows =
        before ++
          { row with
            state := .known d.state
            updatedBy := some updatedBy
            updatedAt := some updatedAt } :: after)

variable {around : Surroundings} {t : Table} {request : Request} {served : Served}

/-- A row with a number and a key stands among rows that have neither. -/
theorem exists_rows_of_holds {id : Int} {e : Entry} (h : t.Sound) (he : t.Holds id e) :
    ∃ before after, t.rows = before ++ e.row id :: after ∧
      ∀ other ∈ before ++ after, other.id ≠ id ∧ ¬ other.hasKey e.key := by
  obtain ⟨before, after, hrows⟩ := List.append_of_mem he
  -- What no two rows share, no other row shares with the row.
  have hother {α : Type} {f : Row → α} (hnodup : (t.rows.map f).Nodup) :
      ∀ other ∈ before ++ after, f other ≠ f (e.row id) := by
    intro other hmem hf
    rw [hrows, List.map_append, List.map_cons, List.nodup_middle, ← List.map_append] at hnodup
    exact (List.nodup_cons.mp hnodup).1 (hf ▸ List.mem_map_of_mem hmem)
  refine ⟨before, after, hrows, fun other hmem => ⟨hother h.ids other hmem, fun hkey => ?_⟩⟩
  refine hother h.keys other hmem ?_
  simp only [Row.hasKey, Bool.and_eq_true, beq_iff_eq] at hkey
  exact Prod.ext hkey.1.1 (Prod.ext hkey.1.2 hkey.2)

/-- A ruling changes the row with the number and keeps rows that do not have it. -/
theorem rows_ruled {id : Int} {e : Entry} {before after : List Row}
    (hrows : t.rows = before ++ e.row id :: after) (hothers : ∀ other ∈ before ++ after, other.id ≠ id)
    (hopen : e.ruling = none) (d : Decision) (updatedBy : String) (now : Time.DateTime) :
    (t.ruled id d updatedBy now).rows =
      before ++ Table.decidedRow d updatedBy now (e.row id) :: after := by
  have hkept (rows : List Row) (hids : ∀ other ∈ rows, other.id ≠ id) :
      rows.map (fun r => if Table.isOpen id r then Table.decidedRow d updatedBy now r else r) = rows := by
    refine List.map_congr_left (fun other hother => if_neg ?_) |>.trans (List.map_id rows)
    simp [Table.isOpen, hids other hother]
  rw [Table.ruled, hrows, List.map_append, List.map_cons, if_pos (Table.isOpen_row.mpr ⟨rfl, hopen⟩),
    hkept before fun other hother => hothers other (List.mem_append_left _ hother),
    hkept after fun other hother => hothers other (List.mem_append_right _ hother)]

/-- The effect of a request on a sound table, said of its rows. -/
theorem Effect.frame (h : Effect around t request served) (hsound : t.Sound) :
    Frame t request served := by
  cases h with
  | keeps htable _ hregister hdecide =>
    exact .unchanged htable (fun hrequest => hregister hrequest.1 hrequest.2)
      fun d s hrequest => hdecide d s hrequest.1 hrequest.2
  | @registers d logs hrequest hfree =>
    refine .registered (Table.newRow t.nextId d) d.entry.details hrequest rfl rfl
      (Entry.hasKey_row (e := d.entry).mpr rfl) (fun other hother hkey => ?_) rfl rfl rfl
    obtain ⟨e, he⟩ := hsound.rows other hother
    rw [he] at hother hkey
    exact hfree _ e hother (Entry.hasKey_row.mp hkey)
  | @decides d s id e updatedBy now logs hrequest hkey he hopen =>
    obtain ⟨before, after, hrows, hothers⟩ := exists_rows_of_holds hsound he
    exact .decided before after (e.row id) d s e.key updatedBy (.ofTime now) hrequest rfl hkey hrows
      (Entry.hasKey_row.mpr rfl) (fun other hother => (hothers other hother).2)
      (congrArg Stored.known (Entry.state_eq_created.mpr hopen)) (by simp [Entry.row, hopen])
      (by simp [Entry.row, hopen])
      (rows_ruled hrows (fun other hother => (hothers other hother).1) hopen d updatedBy now)

/-- A request that reads and a request that is to blame leave all rows as they are. -/
theorem Frame.table_eq (h : Frame t request served)
    (hrequest : request.Reads ∨ served.response.Blames) : served.table = t := by
  cases h with
  | unchanged htable => exact htable
  | registered row d hregister hresponse =>
    rcases hrequest with (hget | ⟨s, hroute⟩) | hblames
    · exact absurd (hget.symm.trans hregister.1) (by decide)
    · cases hroute.symm.trans hregister.2
    · rw [hresponse] at hblames
      exact absurd hblames.1 (by simp)
  | decided before after row d s k updatedBy updatedAt hdecide hstatus =>
    rcases hrequest with (hget | ⟨s, hroute⟩) | hblames
    · exact absurd (hget.symm.trans hdecide.1) (by decide)
    · cases hroute.symm.trans hdecide.2
    · rw [Response.Blames, hstatus] at hblames
      exact absurd hblames.1 (by decide)

/-- **A request changes what its answer tells and nothing else.** This holds of every table that requests
leave behind, and of every request, whether or not the service can work. -/
theorem frame_of_request (visits : List Visit) (around : Surroundings) (request : Request) :
    Frame (run visits .empty).2 request (serve around (run visits .empty).2 request) ∧
      (request.Reads ∨ (serve around (run visits .empty).2 request).response.Blames →
        (serve around (run visits .empty).2 request).table = (run visits .empty).2) := by
  have hsound := sound_run .empty visits
  have hframe := (effect_serve hsound around request).frame hsound
  exact ⟨hframe, hframe.table_eq⟩

end Service

end SchemaRegistry
