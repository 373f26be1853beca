import SchemaRegistry.Proofs.Registry.Listing

/-!
# Stored times are naive

The clock shows points in time in UTC, and a column keeps the fields of a point in time without its offset. So what
a schema tells of its registration and of the decision on it is not what the clock showed. It has the same fields,
down to the microsecond, and would be that point in time if it were read in UTC; but it does not say so, and it is not
the same as any point in time that has an offset.

`stored_times_are_naive` says this of the answer to a registration or a decision and of whatever is read of the key
from then on: an entry keeps the time of its registration and the ruling on it, however the table evolves.
-/

namespace SchemaRegistry

/-! ## Points in time without their offset -/

namespace Time.DateTime

/-- What is left of a point in time in UTC without its offset. -/
structure NaiveOf (shown now : DateTime) : Prop where
  offset : shown.offset = none
  /-- Read in UTC and in its zone, it is the point in time again. -/
  restored : { shown with offset := some .utc, zone := now.zone } = now
  /-- Its text lacks the letter for UTC, and nothing else. -/
  text : now.text = shown.text ++ "Z"
  /-- As it stands, it is another point in time. -/
  differs : now.same shown = false

theorem naiveOf_dropOffset {now : DateTime} (hutc : now.offset = some .utc) : now.dropOffset.NaiveOf now := by
  obtain ⟨date, hour, minute, second, micro, offset, zone⟩ := now
  obtain rfl : offset = some .utc := hutc
  refine ⟨rfl, rfl, ?_, ?_⟩
  · have hletter : offsetText .utc = ['Z'] := rfl
    simp [text, chars, dropOffset, hletter, ← String.toList_inj]
  · cases zone <;> simp [same, shareZone, instant?, dropOffset]

end Time.DateTime

/-! ## What is written, and what is read of it -/

namespace Registry

open Table

variable {s : Stage} {between : Interlude} {id : Int} {e : Entry} {r : Registration} {k : Key}
  {decision : Decision} {updatedBy : String} {d : Details}

/-- The answer to a registration is the entry that it leaves in the table. -/
theorem holds_of_create {now : Time.Reading} (hsound : s.table.Sound)
    (hbetween : s.table.Evolves (between s.table).table) (h : (create s now between r).answer = .ok d) :
    ∃ time, now = some time ∧ (Draft.entry ⟨r, time⟩).details = d ∧
      ∃ id, (create s now between r).table.Holds id (Draft.entry ⟨r, time⟩) := by
  obtain ⟨time, hnow, ⟨t, hinsert⟩, hget⟩ := insert?_of_create h
  have hafter : (create s now between r).table.Sound := hsound.evolves (create_evolves hbetween now r)
  obtain ⟨-, htable⟩ := insert?_eq_some_iff.mp hinsert
  have hholds : (create s now between r).table.Holds t.nextId (Draft.entry ⟨r, time⟩) :=
    htable ▸ holds_new t ⟨r, time⟩
  refine ⟨time, hnow, ?_, t.nextId, hholds⟩
  have hdetails := get_of_holds hafter hholds
  rw [Draft.entry_key, hget] at hdetails
  exact (Except.ok.inj hdetails).symm

/-- The second step of a decision that succeeds answers with the entry that it leaves in the table. -/
theorem holds_of_decideOn {now : Time.DateTime} (hsound : s.table.Sound) (he : s.table.Holds id e)
    (h : (decideOn s now k id decision updatedBy).answer = .ok d) :
    (e.rule (.made decision updatedBy now)).details = d ∧
      (decideOn s now k id decision updatedBy).table.Holds id (e.rule (.made decision updatedBy now)) := by
  unfold decideOn at h ⊢
  by_cases hopen : e.ruling = none
  · rw [decide?_of_open he hopen] at h ⊢
    dsimp only at h ⊢
    cases hinsert : (s.table.ruled id decision updatedBy now).insertAll? s.pending with
    | none =>
      simp only [hinsert] at h
      cases h
    | some t =>
      have hevolves := Evolves.insertAll hinsert
      obtain ⟨e', he', hbecomes⟩ := hevolves.keeps _ _ (holds_rule hsound he hopen decision updatedBy now)
      obtain rfl := hbecomes.eq_of_ruling (Option.some_ne_none _)
      simp only [hinsert, rowById?_of_holds (hsound.ruled.evolves hevolves) he', Entry.load_row,
        Entry.details_loaded] at h ⊢
      exact ⟨Except.ok.inj h, he'⟩
  · rw [decide?_of_closed hsound he hopen] at h
    cases h

/-- The answer to a decision is the entry that it leaves in the table, with the ruling on it. -/
theorem holds_of_decide {now : Time.Reading} (hsound : s.table.Sound)
    (hbetween : s.table.Evolves (between s.table).table)
    (h : (decide s now between k decision updatedBy).answer = .ok d) :
    ∃ time, ∃ e : Entry, now = some time ∧ e.key = k ∧ (e.rule (.made decision updatedBy time)).details = d ∧
      ∃ id, (decide s now between k decision updatedBy).table.Holds id
        (e.rule (.made decision updatedBy time)) := by
  rcases s.table.free_or_holds k with hfree | ⟨id, e, he, rfl⟩
  · rw [decide_of_free hsound hfree] at h
    cases h
  · unfold decide at h ⊢
    rw [require_of_holds hsound he] at h ⊢
    cases now with
    | none => cases h
    | some time =>
      dsimp only [Entry.loaded_row, Entry.row_id] at h ⊢
      cases hfailure : (between s.table).failure with
      | some e =>
        simp only [hfailure] at h
        cases h
      | none =>
        -- What happens in between may rule on the entry, but then the decision fails.
        obtain ⟨e', he', hbecomes⟩ := hbetween.keeps _ _ he
        simp only [hfailure] at h ⊢
        obtain ⟨hdetails, hholds⟩ :=
          holds_of_decideOn (s := ⟨(between s.table).table, s.pending⟩) (hsound.evolves hbetween) he' h
        exact ⟨time, e', rfl, hbecomes.key_eq, hdetails, id, hholds⟩

/-- Readers of the table are shown the schema, those who ask for its key and those who ask for a list. -/
structure Shows (t : Table) (d : Details) : Prop where
  got : get t d.key = .ok d
  /-- A list that the schema belongs to has it, and no list has another one with its key. -/
  listed (space : Option String) (state : Option State) :
    ∃ ds, list t space state = .ok ds ∧
      ds.filter (·.hasKey d.key) = if d.Meets space state then [d] else []

/-- What an entry holds is shown. -/
theorem shows_of_holds {t : Table} (hsound : t.Sound) (he : t.Holds id e) : Shows t e.details := by
  have hgot : get t e.details.key = .ok e.details := get_of_holds hsound he
  refine ⟨hgot, fun space state => ?_⟩
  obtain ⟨held, hheld⟩ := hsound.exists_held fun r hr => mem_sorted.mp hr
  refine ⟨_, list_eq_filter hsound hheld space state, ?_⟩
  rw [List.filter_comm, (get_eq_ok_iff hsound hheld _ _).mp hgot, List.filter_singleton]
  simp

end Registry

/-! ## Commands that note the time -/

/-- A reply with details answers with these details. -/
theorem Outcome.answer_of_reply {o : Outcome Details} {d : Details}
    (h : (o.reply .details).answer = .ok (.details d)) : o.answer = .ok d := by
  rw [reply] at h
  cases hanswer : o.answer with
  | error e =>
    rw [hanswer] at h
    cases h
  | ok d' =>
    rw [hanswer] at h
    cases h
    rfl

namespace Command

/-- A registration that is checked is made. -/
theorem run_create {request : Json} {r : Registration} (hrequest : Registration.check request = .accepted r)
    (now : Time.Reading) (rival : Option Command) (s : Stage) :
    (create request rival).run now s =
      (Registry.create s now (run.interlude now rival) r).reply .details := by
  rw [run, hrequest]
  rfl

/-- A decision on a key that is checked is made. -/
theorem run_decide {key : Json} {k : Key} (hkey : Key.check key = .accepted k) (now : Time.Reading)
    (decision : Decision) (updatedBy : String) (rival : Option Command) (s : Stage) :
    (decide decision key updatedBy rival).run now s =
      (Registry.decide s now (run.interlude now rival) k decision updatedBy).reply .details := by
  rw [run, hkey]
  rfl

/-- The command notes for a key what the clock shows, and this is where the details tell it. -/
inductive Notes : Command → Key → (Details → Option Time.DateTime) → Prop where
  | registration {request : Json} {r : Registration} {rival : Option Command}
      (hrequest : Registration.check request = .accepted r) :
      Notes (create request rival) r.key fun d => some d.provenance.createdAt
  | decision {decision : Decision} {key : Json} {k : Key} {updatedBy : String} {rival : Option Command}
      (hkey : Key.check key = .accepted k) :
      Notes (decide decision key updatedBy rival) k fun d => d.provenance.updatedAt

variable {c : Command} {k : Key} {noted : Details → Option Time.DateTime} {s : Stage} {now : Time.DateTime}
  {d : Details}

/-- A command that notes the time and succeeds leaves an entry from which it is told, whatever becomes of it. -/
theorem Notes.exists_entry (h : c.Notes k noted) (hproper : c.Proper) (hsound : s.table.Sound)
    (hanswer : (c.run (some now) s).answer = .ok (.details d)) :
    ∃ id e, (c.run (some now) s).table.Holds id e ∧ e.key = k ∧ e.details = d ∧
      ∀ e', e.Becomes e' → noted e'.details = some now.dropOffset := by
  cases h with
  | @registration request r rival hrequest =>
    rw [run_create hrequest] at hanswer ⊢
    have hbetween := interlude_evolves (proper_create.mp hproper) (some now) s.table
    obtain ⟨time, hnow, hdetails, id, hholds⟩ :=
      Registry.holds_of_create hsound hbetween (Outcome.answer_of_reply hanswer)
    obtain rfl := Option.some.inj hnow
    refine ⟨id, _, hholds, rfl, hdetails, fun e' hbecomes => ?_⟩
    exact congrArg some hbecomes.createdAt_eq
  | @decision decision key k updatedBy rival hkey =>
    rw [run_decide hkey] at hanswer ⊢
    have hbetween := interlude_evolves (proper_decide.mp hproper) (some now) s.table
    obtain ⟨time, e, hnow, hk, hdetails, id, hholds⟩ :=
      Registry.holds_of_decide hsound hbetween (Outcome.answer_of_reply hanswer)
    obtain rfl := Option.some.inj hnow
    refine ⟨id, _, hholds, hk, hdetails, fun e' hbecomes => ?_⟩
    have hruling := hbecomes.ruling_eq (r := .made decision updatedBy now) rfl
    exact congrArg (Option.map Ruling.updatedAt) hruling

end Command

/-! ## Turns -/

namespace Turn

/-- What a turn leaves behind, taken where others left off. -/
def outcome (turn : Turn) (before : Sessions × Table) : Outcome Reply :=
  turn.command.run turn.now ⟨before.2, before.1.drafts turn.session⟩

/-- The turns after one of them make the table evolve from what it leaves behind. -/
theorem outcome_evolves {later : List Turn} (hlater : ∀ turn ∈ later, turn.command.Proper) (turn : Turn)
    (before : Sessions × Table) :
    (turn.outcome before).table.Evolves (leave (turn :: later) before.1 before.2).2 :=
  leave_evolves hlater _ _

/-- **Stored times are naive.** Whatever proper commands the registry is given, in any sessions, a registration or
a decision that succeeds is answered with what is left of the time on the clock without its offset, and so is
every reader of the key from then on. -/
theorem stored_times_are_naive {earlier later : List Turn} {turn : Turn}
    (hproper : ∀ other ∈ earlier ++ turn :: later, other.command.Proper) (sessions : Sessions) {k : Key}
    {noted : Details → Option Time.DateTime} (hnotes : turn.command.Notes k noted) {now : Time.DateTime}
    (hnow : turn.now = some now) (hutc : now.offset = some .utc) {d : Details}
    (hanswer : (turn.outcome (leave earlier sessions .empty)).answer = .ok (.details d)) :
    ∃ shown, shown.NaiveOf now ∧ d.key = k ∧ noted d = some shown ∧
      ∃ d', Registry.Shows (leave (earlier ++ turn :: later) sessions .empty).2 d' ∧
        d'.key = k ∧ noted d' = some shown := by
  obtain ⟨hearlier, hturn, hlater⟩ :
      (∀ other ∈ earlier, other.command.Proper) ∧ turn.command.Proper ∧
        ∀ other ∈ later, other.command.Proper := by
    simpa [or_imp, forall_and] using hproper
  have hbefore := Table.Sound.empty.evolves (leave_evolves hearlier sessions .empty)
  rw [leave_append]
  generalize leave earlier sessions .empty = before at hbefore hanswer ⊢
  have hevolves := outcome_evolves hlater turn before
  have hafter := hbefore.evolves ((turn.command.run_evolves turn.now hturn ⟨before.2, _⟩).trans hevolves)
  rw [outcome, hnow] at hanswer hevolves
  obtain ⟨id, e, he, hkey, rfl, hnoted⟩ := hnotes.exists_entry hturn hbefore hanswer
  -- Later turns leave the entry in the table, and the time with it.
  obtain ⟨e', he', hbecomes⟩ := hevolves.keeps _ _ he
  exact ⟨now.dropOffset, Time.DateTime.naiveOf_dropOffset hutc, hkey, hnoted e .stays, e'.details,
    Registry.shows_of_holds hafter he', hbecomes.key_eq.trans hkey, hnoted e' hbecomes⟩

/-- One microsecond past the start of the session. -/
def tick : Time.DateTime := { Time.sessionStart with micro := ⟨1, by decide⟩ }

/-- The registration of the sample at that time. -/
def registering : Turn := ⟨"a", some tick, .create Registry.sampleRegistration.toJson none⟩

/-- Its approval in another session, at the same time. -/
def approving : Turn := ⟨"b", some tick, .decide .approve Key.sample.toJson "ben" none⟩

/-- The draft of the sample. -/
def tickDraft : Table.Draft := ⟨Registry.sampleRegistration, tick⟩

theorem outcome_registering :
    registering.outcome ([], .empty) =
      ⟨.ok (.details tickDraft.entry.details), Table.empty.add tickDraft,
        [Registry.registeredRecord Registry.sampleRegistration], []⟩ := by
  rw [outcome, registering, Command.run_create (Registration.check_toJson _)]
  exact congrArg (Outcome.reply .details) (Registry.create_of_free .empty (Table.free_empty _))

theorem outcome_approving :
    approving.outcome (leave [registering] [] .empty) =
      ⟨.ok (.details (tickDraft.entry.rule (.made .approve "ben" tick)).details),
        (Table.empty.add tickDraft).ruled Table.empty.nextId .approve "ben" tick,
        [Registry.movedRecord Key.sample .approve "ben"], []⟩ := by
  have hleave : leave [registering] [] .empty = ([("a", [])], Table.empty.add tickDraft) := by
    change (Sessions.set [] "a" (registering.outcome ([], .empty)).pending,
      (registering.outcome ([], .empty)).table) = _
    rw [outcome_registering]
    rfl
  rw [hleave, outcome, approving, Command.run_decide Key.sample.check_toJson]
  exact congrArg (Outcome.reply .details)
    (Registry.decide_of_open (Table.Sound.empty.add (Table.free_empty _)) (Table.holds_new _ tickDraft) rfl)

/-- The sample is read without the offset of the time at which it was registered, and approved. -/
theorem stored_times_are_naive_tick :
    (∀ other ∈ [registering, approving], other.command.Proper) ∧ tick.offset = some .utc ∧
      (∃ d, (registering.outcome ([], .empty)).answer = .ok (.details d) ∧
        ∃ shown, shown.NaiveOf tick ∧ d.key = .sample ∧ some d.provenance.createdAt = some shown ∧
          ∃ d', Registry.Shows (leave [registering, approving] [] .empty).2 d' ∧
            d'.key = .sample ∧ some d'.provenance.createdAt = some shown) ∧
      ∃ d, (approving.outcome (leave [registering] [] .empty)).answer = .ok (.details d) ∧
        ∃ shown, shown.NaiveOf tick ∧ d.key = .sample ∧ d.provenance.updatedAt = some shown ∧
          ∃ d', Registry.Shows (leave [registering, approving] [] .empty).2 d' ∧
            d'.key = .sample ∧ d'.provenance.updatedAt = some shown := by
  have hproper : ∀ other ∈ [registering, approving], other.command.Proper := by
    simp [registering, approving, Command.Proper]
  have hregistered : (registering.outcome ([], .empty)).answer = .ok (.details tickDraft.entry.details) := by
    rw [outcome_registering]
  have happroved : (approving.outcome (leave [registering] [] .empty)).answer =
      .ok (.details (tickDraft.entry.rule (.made .approve "ben" tick)).details) := by
    rw [outcome_approving]
  refine ⟨hproper, rfl, ⟨_, hregistered, ?_⟩, _, happroved, ?_⟩
  · exact @stored_times_are_naive [] [approving] registering hproper [] _ _
      (.registration (Registration.check_toJson Registry.sampleRegistration)) _ rfl rfl _ hregistered
  · exact @stored_times_are_naive [registering] [] approving hproper [] _ _
      (.decision Key.sample.check_toJson) _ rfl rfl _ happroved

/-- The sample is shown as registered a microsecond past midnight, but not of which place. -/
theorem tick_lacks_offset :
    ∃ d, (registering.outcome ([], .empty)).answer = .ok (.details d) ∧
      d.provenance.createdAt.text = "2026-01-01T00:00:00.000001" ∧
      tick.same d.provenance.createdAt = false := by
  refine ⟨tickDraft.entry.details, by rw [outcome_registering], ?_, rfl⟩
  decide +kernel

end Turn

end SchemaRegistry
