import SchemaRegistry.Proofs.Registry.SoundOperations

/-!
# Clients

A client does one job, registering a schema or deciding on one, in steps between which other clients may act.
It looks the schema up, makes its change, and reads the row again for its answer. A change that is refused is
rolled back, and a decision then reads the schema again to tell the state in which it is. `Job.step` is the
next step of a client; the registry's own operations are clients that are left alone, but for what may happen
between the lookup and the change.
-/

namespace SchemaRegistry

/-- What a client has to do. -/
inductive Job where
  | register (r : Registration)
  | decide (d : Decision) (k : Key) (updatedBy : String)

/-- How far a client has come with its job. -/
inductive Job.Progress where
  | waiting
  /-- The key is free, as far as the client knows. -/
  | cleared
  /-- The schema has the row with this number. -/
  | targeted (id : Int)
  /-- The change was made to the row with this number. -/
  | committed (id : Int)
  /-- The decision was not made, and the client has still to find out why. -/
  | refused
  | answered (answer : Except Failure Details)

/-- The answer of a client that has changed the row with a number: the row as it is now. -/
def Table.refreshed (t : Table) (id : Int) : Except Failure Details :=
  match t.rowById? id with
  | none => .error .operational
  | some r => do (← r.load).details

/-- A client reads the details of the entry under the number. -/
theorem Table.refreshed_of_holds {t : Table} {id : Int} {e : Entry} (h : t.Sound) (he : t.Holds id e) :
    t.refreshed id = .ok e.details := by
  rw [refreshed, rowById?_of_holds h he]
  simp only [Entry.load_row]
  exact e.details_loaded id

namespace Job

/-- The job is to register a schema with the key. -/
def Registers (k : Key) : Job → Prop
  | register r => r.key = k
  | decide .. => False

/-- The job is to decide on the schema with the key. -/
def Decides (k : Key) : Job → Prop
  | register _ => False
  | decide _ k' _ => k' = k

/-- The next step of a client, at a point in time: the table and how far the client has come after it. -/
def step (now : Time.DateTime) (t : Table) : Job → Progress → Table × Progress
  | register r, .waiting =>
    match t.find? r.key with
    | .error e => (t, .answered (.error e))
    | .ok (some _) => (t, .answered (.error (Registry.taken r.key)))
    | .ok none => (t, .cleared)
  | register r, .cleared =>
    match t.insert? ⟨r, now⟩ with
    | none => (t, .answered (.error (Registry.taken r.key)))
    | some t' => (t', .committed t.nextId)
  | decide _ k _, .waiting =>
    match t.require k with
    | .error e => (t, .answered (.error e))
    | .ok l => (t, .targeted l.row.id)
  | decide d _ updatedBy, .targeted id =>
    match t.decide? id d updatedBy now with
    | none => (t, .refused)
    | some t' => (t', .committed id)
  | decide d k _, .refused => (t, .answered (.error (Registry.closed t k d)))
  | _, .committed id => (t, .answered (t.refreshed id))
  | _, p => (t, p)

/-- The second half of a job that is not disturbed: the change and what comes after it. -/
def finish (now : Time.DateTime) (j : Job) (t : Table) (p : Progress) : Table × Progress :=
  let (t, p) := j.step now t p
  j.step now t p

/-- What the registry's operation for the job leaves behind, in a session without drafts. -/
def outcome (now : Time.DateTime) (between : Interlude) (t : Table) : Job → Outcome Details
  | register r => Registry.create ⟨t, []⟩ (some now) between r
  | decide d k updatedBy => Registry.decide ⟨t, []⟩ (some now) between k d updatedBy

/-- The lookup changes nothing. -/
theorem table_step_waiting (now : Time.DateTime) (t : Table) (j : Job) : (j.step now t .waiting).1 = t := by
  cases j with
  | register r =>
    simp only [step]
    split <;> rfl
  | decide d k updatedBy =>
    simp only [step]
    split <;> rfl

/-- A client that has its answer is done. -/
theorem finish_answered (now : Time.DateTime) (t : Table) (j : Job) (answer : Except Failure Details) :
    j.finish now t (.answered answer) = (t, .answered answer) := by
  cases j <;> rfl

end Job

/-! ## Clients and operations -/

namespace Registry

variable {t : Table} {now : Time.DateTime} {between : Interlude}

/-- Registering is a client that looks the key up and finishes its job on the table that other writers
left. -/
theorem create_eq_steps (r : Registration) (hclean : (between t).failure = none)
    (hsound : (between t).table.Sound) :
    let outcome := create ⟨t, []⟩ (some now) between r
    (Job.register r).step now t .waiting = (t, .cleared) ∧
        (Job.register r).finish now (between t).table .cleared =
          (outcome.table, .answered outcome.answer) ∨
      (Job.register r).step now t .waiting = (outcome.table, .answered outcome.answer) := by
  cases hfind : t.find? r.key with
  | error e =>
    right
    simp only [Job.step, create, hfind, reading]
  | ok found =>
    cases found with
    | some l =>
      right
      simp only [Job.step, create, hfind, reading]
    | none =>
      left
      refine ⟨by simp only [Job.step, hfind], ?_⟩
      simp only [create, hfind, hclean, insertNew, List.nil_append, Table.insertAll?, Job.finish, Job.step]
      rcases (between t).table.free_or_holds r.key with hfree | ⟨id, e, he, hkey⟩
      · -- No other row has the number of the new row, so reading it again is reading the row of the key.
        have hadd := Table.insert?_of_free (d := ⟨r, now⟩) hsound hfree
        have hnew := Table.holds_new (between t).table ⟨r, now⟩
        have hget := get_of_holds (hsound.add hfree) hnew
        rw [Table.Draft.entry_key] at hget
        simp only [hadd, Option.bind_some, Table.refreshed_of_holds (hsound.add hfree) hnew, hget]
      · simp only [Table.insert?_of_holds (d := ⟨r, now⟩) hsound he hkey, Option.bind_none]

/-- Deciding is a client that looks the schema up and finishes its job on the table that other writers
left. -/
theorem decide_eq_steps (d : Decision) (k : Key) (updatedBy : String)
    (hclean : (between t).failure = none) :
    let outcome := decide ⟨t, []⟩ (some now) between k d updatedBy
    (∃ id, (Job.decide d k updatedBy).step now t .waiting = (t, .targeted id) ∧
        (Job.decide d k updatedBy).finish now (between t).table (.targeted id) =
          (outcome.table, .answered outcome.answer)) ∨
      (Job.decide d k updatedBy).step now t .waiting = (outcome.table, .answered outcome.answer) := by
  cases hrequire : t.require k with
  | error e =>
    right
    simp only [Job.step, decide, hrequire, reading]
  | ok l =>
    left
    refine ⟨l.row.id, by simp only [Job.step, hrequire], ?_⟩
    simp only [decide, hrequire, hclean, decideOn, Job.finish, Job.step]
    cases hdecide : (between t).table.decide? l.row.id d updatedBy now with
    | none => rfl
    | some t' =>
      simp only [Table.insertAll?, Table.refreshed]
      cases hrow : t'.rowById? l.row.id with
      | none => rfl
      | some r =>
        cases hload : r.load with
        | error e =>
          simp only [hload]
          rfl
        | ok l =>
          simp only [hload]
          rfl

end Registry

/-- An operation is a client that finishes its job on the table that other writers left, unless its lookup ends it. -/
theorem Job.outcome_eq_steps (now : Time.DateTime) {t : Table} {between : Interlude} (j : Job)
    (hclean : (between t).failure = none) (hsound : (between t).table.Sound) :
    let outcome := j.outcome now between t
    (∃ p, j.step now t .waiting = (t, p) ∧
        j.finish now (between t).table p = (outcome.table, .answered outcome.answer)) ∨
      j.step now t .waiting = (outcome.table, .answered outcome.answer) := by
  cases j with
  | register r => exact (Registry.create_eq_steps r hclean hsound).imp_left fun h => ⟨.cleared, h⟩
  | decide d k updatedBy =>
    exact (Registry.decide_eq_steps d k updatedBy hclean).imp_left fun ⟨id, h⟩ => ⟨.targeted id, h⟩

/-! ## What a client knows -/

namespace Job

namespace Progress

/-- The client has made its change: it was committed, or the answer says so. -/
def Won : Progress → Prop
  | committed _ => True
  | answered (.ok _) => True
  | _ => False

/-- The client has found a row to decide on. -/
def Found : Progress → Prop
  | waiting | cleared => False
  | answered (.error (.service (.notFound _))) => False
  | _ => True

end Progress

variable {t t' : Table} {j : Job} {p : Progress} {k : Key} {now : Time.DateTime}

/-- How far a client has come fits the table: what the client has learned is so, and what it answers is
right. -/
inductive Fits (t : Table) : Job → Progress → Prop
  | waiting {j : Job} : Fits t j .waiting
  | cleared {r : Registration} : Fits t (.register r) .cleared
  | taken {r : Registration} {id : Int} {e : Entry} (he : t.Holds id e) (hkey : e.key = r.key) :
    Fits t (.register r) (.answered (.error (Registry.taken r.key)))
  | inserted {id : Int} {e : Entry} (he : t.Holds id e) : Fits t (.register e.registration) (.committed id)
  | registered {id : Int} {e : Entry} {details : Details} (he : t.Holds id e)
    (hdetails : details.key = e.key) : Fits t (.register e.registration) (.answered (.ok details))
  | missed {d : Decision} {k : Key} {updatedBy : String} :
    Fits t (.decide d k updatedBy) (.answered (.error (.service (.notFound k.reference))))
  | targeted {d : Decision} {updatedBy : String} {id : Int} {e : Entry} (he : t.Holds id e) :
    Fits t (.decide d e.key updatedBy) (.targeted id)
  | refused {d : Decision} {updatedBy : String} {id : Int} {e : Entry} {r : Ruling} (he : t.Holds id e)
    (hr : e.ruling = some r) : Fits t (.decide d e.key updatedBy) .refused
  | closed {d : Decision} {updatedBy : String} {id : Int} {e : Entry} {r : Ruling} (he : t.Holds id e)
    (hr : e.ruling = some r) :
    Fits t (.decide d e.key updatedBy)
      (.answered (.error
        (.service (.invalidTransition e.key.reference r.decision.state.word d.state.word))))
  | ruled {id : Int} {e : Entry} {r : Ruling} (he : t.Holds id e) (hr : e.ruling = some r) :
    Fits t (.decide r.decision e.key r.updatedBy) (.committed id)
  | decided {id : Int} {e : Entry} {r : Ruling} {details : Details} (he : t.Holds id e)
    (hr : e.ruling = some r) (hkey : details.key = e.key) (hstate : details.state = r.decision.state)
    (hby : details.provenance.updatedBy = some r.updatedBy) :
    Fits t (.decide r.decision e.key r.updatedBy) (.answered (.ok details))

/-- What a client knows stays so, whatever other clients do. -/
theorem Fits.mono (h : Fits t j p) (hkeeps : t.Keeps t') : Fits t' j p := by
  cases h with
  | waiting => exact .waiting
  | cleared => exact .cleared
  | missed => exact .missed
  | taken he hkey =>
    obtain ⟨e', he', hbecomes⟩ := hkeeps _ _ he
    exact .taken he' (hbecomes.key_eq.trans hkey)
  | inserted he =>
    obtain ⟨e', he', hbecomes⟩ := hkeeps _ _ he
    exact hbecomes.registration_eq ▸ .inserted he'
  | registered he hdetails =>
    obtain ⟨e', he', hbecomes⟩ := hkeeps _ _ he
    exact hbecomes.registration_eq ▸ .registered he' (hdetails.trans hbecomes.key_eq.symm)
  | targeted he =>
    obtain ⟨e', he', hbecomes⟩ := hkeeps _ _ he
    exact hbecomes.key_eq ▸ .targeted he'
  | refused he hr =>
    obtain ⟨e', he', hbecomes⟩ := hkeeps _ _ he
    exact hbecomes.key_eq ▸ .refused he' (hbecomes.ruling_eq hr)
  | closed he hr =>
    obtain ⟨e', he', hbecomes⟩ := hkeeps _ _ he
    exact hbecomes.key_eq ▸ .closed he' (hbecomes.ruling_eq hr)
  | ruled he hr =>
    obtain ⟨e', he', hbecomes⟩ := hkeeps _ _ he
    exact hbecomes.key_eq ▸ .ruled he' (hbecomes.ruling_eq hr)
  | decided he hr hkey hstate hby =>
    obtain ⟨e', he', hbecomes⟩ := hkeeps _ _ he
    exact hbecomes.key_eq ▸
      .decided he' (hbecomes.ruling_eq hr) (hkey.trans hbecomes.key_eq.symm) hstate hby

/-- A client that has registered its key finds it in the table. -/
theorem Fits.holds_of_registers (h : Fits t j p) (hj : j.Registers k) (hwon : p.Won) :
    ∃ id e, t.Holds id e ∧ e.key = k := by
  cases h with
  | inserted he => exact ⟨_, _, he, hj⟩
  | registered he => exact ⟨_, _, he, hj⟩
  | cleared => cases hwon
  | taken => cases hwon
  | waiting => cases hwon
  | _ => cases hj

/-- A client that has made its decision finds it in the table. -/
theorem Fits.holds_of_decides (h : Fits t j p) (hj : j.Decides k) (hwon : p.Won) :
    ∃ id e r, t.Holds id e ∧ e.key = k ∧ e.ruling = some r ∧ j = .decide r.decision k r.updatedBy := by
  cases h with
  | ruled he hr => exact ⟨_, _, _, he, hj, hr, hj ▸ rfl⟩
  | decided he hr => exact ⟨_, _, _, he, hj, hr, hj ▸ rfl⟩
  | missed => cases hwon
  | targeted => cases hwon
  | refused => cases hwon
  | closed => cases hwon
  | waiting => cases hwon
  | _ => cases hj

/-! ## What a step does -/

/-- What a step leaves behind. It leaves the table alone, or it puts in a new entry with a free key, or it puts
a ruling on an entry that has none. -/
inductive Effect (now : Time.DateTime) (t : Table) (j : Job) (p : Progress) : Table × Progress → Prop
  | rests {p' : Progress} (hfits : Fits t j p') (hwon : p'.Won ↔ p.Won) (hfound : p.Found → p'.Found) :
    Effect now t j p (t, p')
  | inserts {r : Registration} (hj : j = .register r) (hp : ¬p.Won) (hfree : t.Free r.key) :
    Effect now t j p (t.add ⟨r, now⟩, .committed t.nextId)
  | rules {d : Decision} {updatedBy : String} {id : Int} {e : Entry} (hj : j = .decide d e.key updatedBy)
    (hp : ¬p.Won) (he : t.Holds id e) (hopen : e.ruling = none) :
    Effect now t j p (t.ruled id d updatedBy now, .committed id)

/-- A step from what fits the table. -/
theorem Fits.effect (h : Fits t j p) (hsound : t.Sound) : Effect now t j p (j.step now t p) := by
  have hfits := h
  cases h with
  | waiting =>
    cases j with
    | register r =>
      rcases t.free_or_holds r.key with hfree | ⟨id, e, he, hkey⟩
      · simp only [step, Table.find?_of_free hsound hfree]
        exact .rests .cleared Iff.rfl id
      · simp only [step, ← hkey, Table.find?_of_holds hsound he]
        exact .rests (hkey ▸ .taken he hkey) Iff.rfl False.elim
    | decide d k updatedBy =>
      rcases t.free_or_holds k with hfree | ⟨id, e, he, rfl⟩
      · simp only [step, Table.require_of_free hsound hfree]
        exact .rests .missed Iff.rfl id
      · simp only [step, Table.require_of_holds hsound he]
        exact .rests (.targeted he) Iff.rfl False.elim
  | @cleared r =>
    rcases t.free_or_holds r.key with hfree | ⟨id, e, he, hkey⟩
    · simp only [step, Table.insert?_of_free (d := ⟨r, now⟩) hsound hfree]
      exact .inserts rfl (fun hwon => hwon) hfree
    · simp only [step, Table.insert?_of_holds (d := ⟨r, now⟩) hsound he hkey]
      exact .rests (.taken he hkey) Iff.rfl False.elim
  | @targeted d updatedBy id e he =>
    cases hruling : e.ruling with
    | none =>
      simp only [step, Table.decide?_of_open he hruling]
      exact .rules rfl (fun hwon => hwon) he hruling
    | some r =>
      simp only [step, Table.decide?_of_closed hsound he (by simp [hruling])]
      exact .rests (.refused he hruling) Iff.rfl fun _ => trivial
  | refused he hr =>
    simp only [step, Registry.closed, Table.require_of_holds hsound he, Entry.loaded_state,
      Entry.state_of_ruling hr]
    exact .rests (.closed he hr) Iff.rfl fun _ => trivial
  | inserted he =>
    simp only [step, Table.refreshed_of_holds hsound he]
    exact .rests (.registered he rfl) Iff.rfl fun _ => trivial
  | ruled he hr =>
    simp only [step, Table.refreshed_of_holds hsound he]
    refine .rests (.decided he hr rfl (Entry.state_of_ruling hr) ?_) Iff.rfl fun _ => trivial
    simp [Entry.details, hr]
  -- A client that has its answer rests.
  | taken | registered | missed | closed | decided => exact .rests hfits Iff.rfl fun hfound => hfound

namespace Effect

variable {after : Table × Progress}

theorem sound (h : Effect now t j p after) (hsound : t.Sound) : after.1.Sound := by
  cases h with
  | rests => exact hsound
  | inserts hj hp hfree => exact hsound.add hfree
  | rules => exact hsound.ruled

theorem keeps (h : Effect now t j p after) (hsound : t.Sound) : t.Keeps after.1 := by
  cases h with
  | rests => exact .refl t
  | inserts => exact Table.keeps_add t _
  | rules hj hp he hopen => exact Table.keeps_ruled hsound he hopen

theorem fits (h : Effect now t j p after) (hsound : t.Sound) : Fits after.1 j after.2 := by
  cases h with
  | rests hfits => exact hfits
  | inserts hj =>
    subst hj
    exact .inserted (Table.holds_new t _)
  | rules hj hp he hopen =>
    subst hj
    exact .ruled (Table.holds_rule hsound he hopen ..) rfl

/-- A change that is made stays made. -/
theorem won (h : Effect now t j p after) (hwon : p.Won) : after.2.Won := by
  cases h with
  | rests _ hp => exact hp.mpr hwon
  | inserts => trivial
  | rules => trivial

/-- A row that is found is not lost. -/
theorem found (h : Effect now t j p after) (hfound : p.Found) : after.2.Found := by
  cases h with
  | rests _ _ hp => exact hp hfound
  | inserts => trivial
  | rules => trivial

/-- Only a client that makes its change changes the table. -/
theorem table_eq (h : Effect now t j p after) (hlost : ¬after.2.Won) : after.1 = t := by
  cases h with
  | rests => rfl
  | inserts => exact absurd trivial hlost
  | rules => exact absurd trivial hlost

end Effect

end Job

end SchemaRegistry
