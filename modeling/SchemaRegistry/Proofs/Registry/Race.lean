import SchemaRegistry.Proofs.Registry.Client
import SchemaRegistry.Proofs.Registry.StoredVerdict

/-!
# Races between clients

Any number of clients take their steps on one table, in any order. Whatever the order, a key is registered once
and decided on once. The answers say so: the client that made the change gets what it asked for, and every
other client learns that the key is taken, or which state the decision led to. The moves of a client come to what
the registry's own operation answers, with the moves of others between its lookup and its change.
-/

namespace SchemaRegistry

/-- A table, and how far each client has come. -/
structure World (ι : Type) where
  table : Table
  progress : ι → Job.Progress

/-- A client takes its next step, at a point in time. -/
structure Move (ι : Type) where
  client : ι
  now : Time.DateTime

namespace World

variable {ι : Type} [DecidableEq ι]

/-- The table is empty, and no client has begun. -/
def start : World ι := ⟨.empty, fun _ => .waiting⟩

/-- The world in which a client has come so far and left this table. -/
def put (w : World ι) (i : ι) (after : Table × Job.Progress) : World ι :=
  ⟨after.1, Function.update w.progress i after.2⟩

/-- The world after a move. -/
def move (jobs : ι → Job) (w : World ι) (m : Move ι) : World ι :=
  w.put m.client ((jobs m.client).step m.now w.table (w.progress m.client))

/-- The world after some moves. -/
def moves (jobs : ι → Job) (w : World ι) (schedule : List (Move ι)) : World ι :=
  schedule.foldl (move jobs) w

/-- The world that clients make of the empty table. Clients that came before others are part of the schedule,
so it may begin with any table that clients can leave. -/
def run (jobs : ι → Job) (schedule : List (Move ι)) : World ι := start.moves jobs schedule

theorem run_append (jobs : ι → Job) (before after : List (Move ι)) :
    run jobs (before ++ after) = (run jobs before).moves jobs after :=
  List.foldl_append

@[simp]
theorem progress_put_self (w : World ι) (i : ι) (after : Table × Job.Progress) :
    (w.put i after).progress i = after.2 :=
  Function.update_self ..

theorem progress_put_of_ne (w : World ι) {i j : ι} (h : j ≠ i) (after : Table × Job.Progress) :
    (w.put i after).progress j = w.progress j :=
  Function.update_of_ne h ..

/-- Moves of others leave a client where it is. -/
theorem progress_moves_of_others (jobs : ι → Job) (w : World ι) {i : ι} {others : List (Move ι)}
    (hothers : ∀ m ∈ others, m.client ≠ i) : (w.moves jobs others).progress i = w.progress i := by
  induction others generalizing w with
  | nil => rfl
  | cons m rest ih =>
    obtain ⟨hm, hrest⟩ := List.forall_mem_cons.mp hothers
    rw [moves, List.foldl_cons, ← moves, ih _ hrest, move, progress_put_of_ne w hm.symm]

/-- Two moves of a client that is not disturbed finish its job. -/
theorem moves_finish (jobs : ι → Job) (w : World ι) (i : ι) (now : Time.DateTime) :
    w.moves jobs [⟨i, now⟩, ⟨i, now⟩] = w.put i ((jobs i).finish now w.table (w.progress i)) := by
  simp [moves, move, put, Job.finish]

/-- A client that begins, is disturbed by others and then finishes its job comes to what the registry's operation
answers when the others act between its lookup and its change. -/
theorem moves_operation (jobs : ι → Job) (w : World ι) {i : ι} {now : Time.DateTime} {others : List (Move ι)}
    {between : Interlude} (hwaiting : w.progress i = .waiting) (hothers : ∀ m ∈ others, m.client ≠ i)
    (hbetween : (between w.table).table = (w.moves jobs (⟨i, now⟩ :: others)).table)
    (hclean : (between w.table).failure = none) (hsound : (between w.table).table.Sound) :
    let after := w.moves jobs (⟨i, now⟩ :: others ++ [⟨i, now⟩, ⟨i, now⟩])
    let outcome := (jobs i).outcome now between w.table
    after.progress i = .answered outcome.answer ∧ (outcome.table = after.table ∨ outcome.table = w.table) := by
  have hfirst : (w.moves jobs (⟨i, now⟩ :: others)).progress i = ((jobs i).step now w.table .waiting).2 := by
    rw [moves, List.foldl_cons, ← moves, progress_moves_of_others jobs _ hothers, move, progress_put_self, hwaiting]
  dsimp only
  rw [show w.moves jobs (⟨i, now⟩ :: others ++ [⟨i, now⟩, ⟨i, now⟩]) =
      (w.moves jobs (⟨i, now⟩ :: others)).moves jobs [⟨i, now⟩, ⟨i, now⟩] from List.foldl_append,
    moves_finish, progress_put_self, hfirst, put, ← hbetween]
  rcases (jobs i).outcome_eq_steps now hclean hsound with ⟨p, hlookup, hfinish⟩ | hlookup
  · rw [hlookup, hfinish]
    exact ⟨rfl, .inl rfl⟩
  · -- The lookup has ended the operation, and what the others did came after it.
    have htable := (jobs i).table_step_waiting now w.table
    rw [hlookup] at htable
    exact ⟨by simp only [hlookup, Job.finish_answered], .inr htable⟩

end World

/-! ## Consistency -/

variable {ι : Type} {jobs : ι → Job} {w : World ι}

/-- The table is sound, each client fits it, each entry was registered by exactly one client, and each ruling
was made by exactly one client. -/
structure Consistent (jobs : ι → Job) (w : World ι) : Prop where
  sound : w.table.Sound
  fits : ∀ i, (jobs i).Fits w.table (w.progress i)
  registered : ∀ id e, w.table.Holds id e → ∃! i, (jobs i).Registers e.key ∧ (w.progress i).Won
  ruled : ∀ id e, w.table.Holds id e → e.ruling ≠ none →
    ∃! i, (jobs i).Decides e.key ∧ (w.progress i).Won

namespace Consistent

theorem start : Consistent jobs .start where
  sound := .empty
  fits := fun _ => .waiting
  registered := by simp [World.start, Table.Holds, Table.empty]
  ruled := by simp [World.start, Table.Holds, Table.empty]

/-- The step of a client has one of the effects that a step can have. -/
theorem effect (h : Consistent jobs w) (m : Move ι) :
    (jobs m.client).Effect m.now w.table (w.progress m.client)
      ((jobs m.client).step m.now w.table (w.progress m.client)) :=
  (h.fits m.client).effect h.sound

/-- The key that two clients have registered makes them one. -/
theorem eq_of_registers (h : Consistent jobs w) {k : Key} {i j : ι} (hi : (jobs i).Registers k)
    (hj : (jobs j).Registers k) (hiwon : (w.progress i).Won) (hjwon : (w.progress j).Won) : i = j := by
  obtain ⟨id, e, he, rfl⟩ := (h.fits i).holds_of_registers hi hiwon
  exact (h.registered id e he).unique ⟨hi, hiwon⟩ ⟨hj, hjwon⟩

/-- The schema that two clients have decided on makes them one. -/
theorem eq_of_decides (h : Consistent jobs w) {k : Key} {i j : ι} (hi : (jobs i).Decides k)
    (hj : (jobs j).Decides k) (hiwon : (w.progress i).Won) (hjwon : (w.progress j).Won) : i = j := by
  obtain ⟨id, e, r, he, rfl, hr, -⟩ := (h.fits i).holds_of_decides hi hiwon
  exact (h.ruled id e he (by simp [hr])).unique ⟨hi, hiwon⟩ ⟨hj, hjwon⟩

/-- A ruling is that of the client that made it. -/
theorem exists_decided (h : Consistent jobs w) {id : Int} {e : Entry} {r : Ruling}
    (he : w.table.Holds id e) (hr : e.ruling = some r) :
    ∃ j, jobs j = .decide r.decision e.key r.updatedBy ∧ (w.progress j).Won := by
  obtain ⟨j, ⟨hj, hwon⟩, -⟩ := h.ruled id e he (by simp [hr])
  obtain ⟨id', e', r', he', hkey, hr', hjob⟩ := (h.fits j).holds_of_decides hj hwon
  obtain ⟨-, rfl⟩ := h.sound.eq_of_key he' he hkey
  obtain rfl := Option.some.inj (hr.symm.trans hr')
  exact ⟨j, hjob, hwon⟩

variable [DecidableEq ι]

/-- A client that does not make its change now makes no difference to who has won. -/
theorem won_put_iff {i : ι} {after : Table × Job.Progress} {P : Job → Prop}
    (h : P (jobs i) → (after.2.Won ↔ (w.progress i).Won)) (j : ι) :
    P (jobs j) ∧ ((w.put i after).progress j).Won ↔ P (jobs j) ∧ (w.progress j).Won := by
  refine and_congr_right fun hj => ?_
  by_cases hji : j = i
  · subst hji
    rw [World.progress_put_self]
    exact h hj
  · rw [World.progress_put_of_ne w hji]

/-- A client that makes its change now is the only one to have won, if no other has. -/
theorem existsUnique_put {i : ι} {after : Table × Job.Progress} {P : Job → Prop} (hi : P (jobs i))
    (hwon : after.2.Won) (hothers : ∀ j, P (jobs j) → ¬(w.progress j).Won) :
    ∃! j, P (jobs j) ∧ ((w.put i after).progress j).Won := by
  refine ⟨i, ⟨hi, by rwa [World.progress_put_self]⟩, ?_⟩
  rintro j ⟨hj, hjwon⟩
  by_contra hji
  rw [World.progress_put_of_ne w hji] at hjwon
  exact hothers j hj hjwon

/-- After a step of a client, each entry was registered by exactly one client. -/
theorem registered_put (h : Consistent jobs w) {i : ι} {now : Time.DateTime}
    {after : Table × Job.Progress}
    (heffect : (jobs i).Effect now w.table (w.progress i) after) (id : Int) (e : Entry)
    (he : after.1.Holds id e) :
    ∃! j, (jobs j).Registers e.key ∧ ((w.put i after).progress j).Won := by
  cases heffect with
  | rests _ hwon =>
    rw [existsUnique_congr (won_put_iff (P := Job.Registers e.key) fun _ => hwon)]
    exact h.registered id e he
  | @inserts r hj hp hfree =>
    rcases Table.holds_add.mp he with he | ⟨-, rfl⟩
    · -- The new entry has another key, so that its client has no part in this one.
      have hother : ¬(jobs i).Registers e.key := by
        rw [hj]
        exact fun hkey => hfree id e he hkey.symm
      rw [existsUnique_congr (won_put_iff fun hi => absurd hi hother)]
      exact h.registered id e he
    · refine existsUnique_put (by rw [hj]; rfl) trivial fun j hregisters hwon => ?_
      obtain ⟨id', e', he', hkey⟩ := (h.fits j).holds_of_registers hregisters hwon
      exact hfree id' e' he' hkey
  | @rules d updatedBy id' e' hj hp he' hopen =>
    have hother : ¬(jobs i).Registers e.key := by
      rw [hj]
      exact fun hregisters => hregisters
    rw [existsUnique_congr (won_put_iff fun hi => absurd hi hother)]
    have hold := (Table.holds_ruled h.sound he' hopen).mp he
    split at hold
    · subst hold
      exact h.registered id' e' he'
    · exact h.registered id e hold

/-- After a step of a client, each ruling was made by exactly one client. -/
theorem ruled_put (h : Consistent jobs w) {i : ι} {now : Time.DateTime} {after : Table × Job.Progress}
    (heffect : (jobs i).Effect now w.table (w.progress i) after) (id : Int) (e : Entry)
    (he : after.1.Holds id e) (hruled : e.ruling ≠ none) :
    ∃! j, (jobs j).Decides e.key ∧ ((w.put i after).progress j).Won := by
  cases heffect with
  | rests _ hwon =>
    rw [existsUnique_congr (won_put_iff (P := Job.Decides e.key) fun _ => hwon)]
    exact h.ruled id e he hruled
  | @inserts r hj hp hfree =>
    have hother : ¬(jobs i).Decides e.key := by
      rw [hj]
      exact fun hdecides => hdecides
    rw [existsUnique_congr (won_put_iff fun hi => absurd hi hother)]
    rcases Table.holds_add.mp he with he | ⟨-, rfl⟩
    · exact h.ruled id e he hruled
    · exact absurd rfl hruled
  | @rules d updatedBy id' e' hj hp he' hopen =>
    have hold := (Table.holds_ruled h.sound he' hopen).mp he
    split at hold
    case isTrue =>
      subst hold
      refine existsUnique_put (by rw [hj]; rfl) trivial fun j hdecides hwon => ?_
      obtain ⟨id'', e'', r, he'', hkey, hr, -⟩ := (h.fits j).holds_of_decides hdecides hwon
      obtain ⟨-, rfl⟩ := h.sound.eq_of_key he'' he' hkey
      cases hopen.symm.trans hr
    case isFalse hid =>
      -- Another entry has another key, so that the client that decided now has no part in it.
      have hother : ¬(jobs i).Decides e.key := by
        rw [hj]
        exact fun hkey => hid (h.sound.eq_of_key hold he' hkey.symm).1
      rw [existsUnique_congr (won_put_iff fun hi => absurd hi hother)]
      exact h.ruled id e hold hruled

/-- A move leaves the world consistent. -/
theorem move (h : Consistent jobs w) (m : Move ι) : Consistent jobs (w.move jobs m) where
  sound := (h.effect m).sound h.sound
  fits := by
    intro i
    by_cases hi : i = m.client
    · rw [World.move, hi, World.progress_put_self]
      exact (h.effect m).fits h.sound
    · rw [World.move, World.progress_put_of_ne w hi]
      exact (h.fits i).mono ((h.effect m).keeps h.sound)
  registered := h.registered_put (h.effect m)
  ruled := h.ruled_put (h.effect m)

/-- Moves leave the world consistent. -/
theorem moves (h : Consistent jobs w) (schedule : List (Move ι)) :
    Consistent jobs (w.moves jobs schedule) := by
  induction schedule generalizing w with
  | nil => exact h
  | cons m rest ih => exact ih (h.move m)

/-- What no step of a client ends, no moves end. -/
theorem progress_moves (h : Consistent jobs w) {i : ι} {P : Job.Progress → Prop}
    (hstep : ∀ {w : World ι} {now : Time.DateTime} {after : Table × Job.Progress},
      (jobs i).Effect now w.table (w.progress i) after → P (w.progress i) → P after.2)
    (schedule : List (Move ι)) (hi : P (w.progress i)) : P ((w.moves jobs schedule).progress i) := by
  induction schedule generalizing w with
  | nil => exact hi
  | cons m rest ih =>
    refine ih (h.move m) ?_
    by_cases hclient : i = m.client
    · subst hclient
      rw [World.move, World.progress_put_self]
      exact hstep (h.effect m) hi
    · rwa [World.move, World.progress_put_of_ne w hclient]

end Consistent

variable [DecidableEq ι]

/-- Every world that clients make of the empty table is consistent. -/
theorem World.consistent_run (jobs : ι → Job) (schedule : List (Move ι)) :
    Consistent jobs (World.run jobs schedule) :=
  Consistent.start.moves schedule

/-! ## Safety -/

/-- What holds once clients have moved in some order. -/
structure RaceSafe (jobs : ι → Job) (schedule : List (Move ι)) : Prop where
  /-- A key is registered by at most one client. -/
  registers_once : ∀ k i j, (jobs i).Registers k → (jobs j).Registers k →
    ((World.run jobs schedule).progress i).Won → ((World.run jobs schedule).progress j).Won → i = j
  /-- A client that is done with registering has succeeded, or it was told that the key is taken, and then
  another client has registered it. -/
  registers_or_taken : ∀ i r answer, jobs i = .register r →
    (World.run jobs schedule).progress i = .answered answer →
    (∃ details, answer = .ok details ∧ details.key = r.key) ∨
      answer = .error (.service (.alreadyExists r.key.reference)) ∧
        ∃ j, (jobs j).Registers r.key ∧ ((World.run jobs schedule).progress j).Won
  /-- A schema is decided on by at most one client. -/
  decides_once : ∀ k i j, (jobs i).Decides k → (jobs j).Decides k →
    ((World.run jobs schedule).progress i).Won → ((World.run jobs schedule).progress j).Won → i = j
  /-- A client that has decided gets its own decision for an answer. -/
  decides : ∀ i d k updatedBy details, jobs i = .decide d k updatedBy →
    (World.run jobs schedule).progress i = .answered (.ok details) →
    details.key = k ∧ details.state = d.state ∧ details.provenance.updatedBy = some updatedBy
  /-- A client that found the schema and failed was told the state to which the decision of another client
  led, and the table has that state. -/
  decides_or_late : ∀ i d k updatedBy before after id failure, jobs i = .decide d k updatedBy →
    schedule = before ++ after → (World.run jobs before).progress i = .targeted id →
    (World.run jobs schedule).progress i = .answered (.error failure) →
    ∃ j d' updatedBy' row, jobs j = .decide d' k updatedBy' ∧
      ((World.run jobs schedule).progress j).Won ∧
      (World.run jobs schedule).table.rowOf? k = some row ∧ row.state = .known d'.state ∧
      (d'.state = .approved ∨ d'.state = .rejected) ∧
      failure = .service (.invalidTransition k.reference d'.state.word d.state.word)
  /-- No move of a client that fails changes the table. -/
  failure_changes_nothing : ∀ before m after failure, schedule = before ++ m :: after →
    (World.run jobs schedule).progress m.client = .answered (.error failure) →
    (World.run jobs (before ++ [m])).table = (World.run jobs before).table
  /-- The moves of a client that others disturb once are the registry's own operation, with what the others did
  between its lookup and its change. The operation leaves the same table, or its lookup ended it. -/
  operates : ∀ i now before others between, schedule = before ++ (⟨i, now⟩ :: others ++ [⟨i, now⟩, ⟨i, now⟩]) →
    (World.run jobs before).progress i = .waiting → (∀ m ∈ others, m.client ≠ i) →
    (between (World.run jobs before).table).table = (World.run jobs (before ++ ⟨i, now⟩ :: others)).table →
    (between (World.run jobs before).table).failure = none →
    let outcome := (jobs i).outcome now between (World.run jobs before).table
    (World.run jobs schedule).progress i = .answered outcome.answer ∧
      (outcome.table = (World.run jobs schedule).table ∨ outcome.table = (World.run jobs before).table)

/-- **Races are safe**, whatever the clients have to do and in whatever order they take their steps. -/
theorem raceSafe (jobs : ι → Job) (schedule : List (Move ι)) : RaceSafe jobs schedule where
  registers_once _ _ _ := (World.consistent_run jobs schedule).eq_of_registers
  registers_or_taken i r answer hjob hanswer := by
    have h := World.consistent_run jobs schedule
    have hfits := h.fits i
    rw [hjob, hanswer] at hfits
    cases hfits with
    | registered he hdetails => exact .inl ⟨_, rfl, hdetails⟩
    | taken he hkey =>
      obtain ⟨j, hj, -⟩ := h.registered _ _ he
      exact .inr ⟨rfl, j, hkey ▸ hj⟩
  decides_once _ _ _ := (World.consistent_run jobs schedule).eq_of_decides
  decides i d k updatedBy details hjob hanswer := by
    have hfits := (World.consistent_run jobs schedule).fits i
    rw [hjob, hanswer] at hfits
    cases hfits with
    | decided he hr hkey hstate hby => exact ⟨hkey, hstate, hby⟩
  decides_or_late i d k updatedBy before after id failure hjob hschedule hfound hanswer := by
    have h := World.consistent_run jobs schedule
    have hstill : ((World.run jobs schedule).progress i).Found := by
      rw [hschedule, World.run_append]
      exact (World.consistent_run jobs before).progress_moves Job.Effect.found after
        (by rw [hfound]; trivial)
    have hfits := h.fits i
    rw [hanswer] at hstill
    rw [hjob, hanswer] at hfits
    cases hfits with
    | missed => exact hstill.elim
    | @closed _ _ _ e r he hr =>
      obtain ⟨j, hj, hwon⟩ := h.exists_decided he hr
      refine ⟨j, r.decision, r.updatedBy, _, hj, hwon, Table.rowOf?_of_holds h.sound he, ?_, ?_, rfl⟩
      · rw [← Entry.state_of_ruling hr]
        rfl
      · cases r.decision with
        | approve => exact .inl rfl
        | reject => exact .inr rfl
  failure_changes_nothing before m after failure hschedule hanswer := by
    have h := World.consistent_run jobs before
    rw [World.run_append]
    -- Had the move changed the table, its client would have won, and could not have failed later.
    refine (h.effect m).table_eq fun hwon => ?_
    have hmoved : (((World.run jobs before).move jobs m).progress m.client).Won := by
      rwa [World.move, World.progress_put_self]
    have hlast := (h.move m).progress_moves Job.Effect.won after hmoved
    rw [hschedule, World.run_append] at hanswer
    rw [show ((World.run jobs before).move jobs m).moves jobs after =
      (World.run jobs before).moves jobs (m :: after) from rfl, hanswer] at hlast
    exact hlast
  operates i now before others between hschedule hwaiting hothers hbetween hclean := by
    have hsound : (between (World.run jobs before).table).table.Sound :=
      hbetween ▸ (World.consistent_run jobs (before ++ ⟨i, now⟩ :: others)).sound
    rw [World.run_append] at hbetween
    rw [hschedule, World.run_append]
    exact World.moves_operation jobs _ hwaiting hothers hbetween hclean hsound

/-- Two clients register a schema with a single attribute, one approves it and one rejects it. -/
def raceJobs : Fin 4 → Job
  | 0 | 1 =>
    .register { Registry.sampleRegistration with
      attributes := ⟨[⟨⟨"balance", by decide, by decide⟩, none, false, .double, [], by decide⟩], by decide, by decide⟩ }
  | 2 => .decide .approve .sample "ben"
  | 3 => .decide .reject .sample "eve"

/-- Each time both have looked the schema up before one of them makes its change. -/
def raceSchedule : List (Move (Fin 4)) :=
  [0, 1, 0, 0, 1, 2, 3, 3, 2, 3, 2].map fun i => ⟨i, Time.sessionStart⟩

-- Of the two that register the first one wins, and of the two that decide the one that is faster.
example : (List.finRange 4).filter (fun i =>
    match (World.run raceJobs raceSchedule).progress i with
    | .answered answer => answer.isOk
    | _ => false) = [0, 3] := by decide +kernel

end SchemaRegistry
