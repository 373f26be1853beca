import SchemaRegistry.Proofs.Registry.Evolution
import SchemaRegistry.Proofs.Registry.SoundOperations

/-!
# One writer

If one writer gives all commands and no row is changed behind the registry's back, the table stays sound and no
draft is ever left behind. `Command.Effect` says all that a command can then do: it leaves the table as it is,
it adds an entry under a key that was free, or it puts a ruling on an entry that had none. Each of the two
changes leaves one record of the registry, and nothing else does.
-/

namespace SchemaRegistry

/-- The records that the registry itself wrote. -/
def LogRecord.ofRegistry (logs : List LogRecord) : List LogRecord :=
  logs.filter fun record => record.reporter == .registry

/-- Judging a host type is reported by another part of the service. -/
theorem Conformance.ofRegistry_validate (schema : Details) (fields : List HostField) (failFast : Bool) :
    LogRecord.ofRegistry (validate schema fields failFast).2 = [] := by
  unfold validate
  split
  · rfl
  · dsimp only
    split <;> rfl

theorem Checked.eq_accepted_of_run {α : Type} {x : Checked α} {a : α} (h : x.run = .ok a) :
    x = .accepted a := by
  cases x with
  | accepted b =>
    cases h
    rfl
  | refused why => cases h

namespace Command

/-- No other writer acts between the steps of the command, and it is not made behind the registry's back. -/
def Alone : Command → Prop
  | create _ rival => rival = none
  | decide _ _ _ rival => rival = none
  | tamper .. => False
  | get _ | list .. | summaries | validate .. | storedAttributes _ => True

/-- The command asks for something and is not meant to change anything. -/
def Reads : Command → Prop
  | create .. | decide .. | tamper .. => False
  | get _ | list .. | summaries | validate .. | storedAttributes _ => True

/-- What a command does to a table. -/
inductive Effect (t : Table) : Command → Outcome Reply → Prop where
  /-- The command reads, or it fails. -/
  | still {c : Command} {answer : Except Failure Reply} {logs : List LogRecord}
      (hreads : c.Reads ∨ ∃ e, answer = .error e) (hlogs : LogRecord.ofRegistry logs = []) :
      Effect t c ⟨answer, t, logs, []⟩
  /-- A registration under a free key. -/
  | registers {request : Json} {r : Registration} {time : Time.DateTime}
      (hrequest : Registration.check request = .accepted r) (hfree : t.Free r.key) :
      Effect t (create request none)
        ⟨.ok (.details (Table.Draft.entry ⟨r, time⟩).details), t.add ⟨r, time⟩,
          [Registry.registeredRecord r], []⟩
  /-- A decision on an open entry. -/
  | decides {d : Decision} {key : Json} {updatedBy : String} {time : Time.DateTime} {id : Int} {e : Entry}
      (hkey : Key.check key = .accepted e.key) (he : t.Holds id e) (hopen : e.ruling = none) :
      Effect t (decide d key updatedBy none)
        ⟨.ok (.details (e.rule (.made d updatedBy time)).details), t.ruled id d updatedBy time,
          [Registry.movedRecord e.key d updatedBy], []⟩

variable {t : Table} {c : Command}

theorem effect_failed (e : Failure) : Effect t c (Registry.reading ⟨t, []⟩ (.error e)) :=
  .still (.inr ⟨e, rfl⟩) rfl

theorem effect_reading (h : c.Reads) (answer : Except Failure Reply) :
    Effect t c (Registry.reading ⟨t, []⟩ answer) :=
  .still (.inl h) rfl

/-- A command that is checked first fails, or does what it does with the value of the check. -/
theorem effect_checking {α : Type} {x : Except Failure α} {next : α → Outcome Reply}
    (h : ∀ a, x = .ok a → Effect t c (next a)) : Effect t c (checking ⟨t, []⟩ x next) := by
  unfold checking
  split
  · exact h _ rfl
  · exact effect_failed _

theorem effect_create (h : t.Sound) {request : Json} {r : Registration}
    (hrequest : Registration.check request = .accepted r) (now : Time.Reading) :
    Effect t (create request none) ((Registry.create ⟨t, []⟩ now .none r).reply .details) := by
  rcases t.free_or_holds r.key with hfree | ⟨id, e, he, hkey⟩
  · cases now with
    | none =>
      simp only [Registry.create, Table.find?_of_free h hfree]
      exact effect_failed _
    | some time =>
      rw [Registry.create_of_free h hfree]
      exact .registers hrequest hfree
  · rw [Registry.create_of_holds h he hkey]
    exact effect_failed _

theorem effect_decide (h : t.Sound) {key : Json} {k : Key} (hkey : Key.check key = .accepted k)
    (now : Time.Reading) (d : Decision) (updatedBy : String) :
    Effect t (decide d key updatedBy none)
      ((Registry.decide ⟨t, []⟩ now .none k d updatedBy).reply .details) := by
  rcases t.free_or_holds k with hfree | ⟨id, e, he, rfl⟩
  · rw [Registry.decide_of_free h hfree]
    exact effect_failed _
  · cases now with
    | none =>
      simp only [Registry.decide, Table.require_of_holds h he]
      exact effect_failed _
    | some time =>
      by_cases hopen : e.ruling = none
      · rw [Registry.decide_of_open h he hopen]
        exact .decides hkey he hopen
      · rw [Registry.decide_of_closed h he hopen]
        exact effect_failed _

/-- **What one writer's command does.** -/
theorem run_effect (h : t.Sound) (now : Time.Reading) (halone : c.Alone) : Effect t c (c.run now ⟨t, []⟩) := by
  cases c with
  | create request rival =>
    obtain rfl : rival = none := halone
    rw [run]
    exact effect_checking fun r hr => effect_create h (Checked.eq_accepted_of_run hr) now
  | decide d key updatedBy rival =>
    obtain rfl : rival = none := halone
    rw [run]
    exact effect_checking fun k hk => effect_decide h (Checked.eq_accepted_of_run hk) now d updatedBy
  | get key =>
    have hreads : (get key).Reads := trivial
    rw [run]
    exact effect_checking fun k _ => effect_reading hreads _
  | list space state =>
    have hreads : (list space state).Reads := trivial
    rw [run]
    exact effect_checking fun state _ => effect_reading hreads _
  | summaries =>
    have hreads : summaries.Reads := trivial
    rw [run]
    exact effect_reading hreads _
  | validate key fields failFast =>
    rw [run]
    refine effect_checking fun k _ => effect_checking fun fields _ => ?_
    rcases t.free_or_holds k with hfree | ⟨id, e, he, rfl⟩
    · rw [Registry.validate_of_free h hfree]
      exact effect_failed _
    · rw [Registry.validate_of_holds h he]
      exact .still (.inl trivial) (Conformance.ofRegistry_validate ..)
  | storedAttributes key =>
    have hreads : (storedAttributes key).Reads := trivial
    rw [run]
    exact effect_checking fun k _ => effect_reading hreads _
  | tamper key columns => exact halone.elim

/-- The table stays sound, -/
theorem Effect.sound {outcome : Outcome Reply} (h : Effect t c outcome) (hsound : t.Sound) :
    outcome.table.Sound := by
  cases h with
  | still => exact hsound
  | registers _ hfree => exact hsound.add hfree
  | decides => exact hsound.ruled

/-- and no draft is left behind. -/
theorem Effect.pending {outcome : Outcome Reply} (h : Effect t c outcome) : outcome.pending = [] := by
  cases h <;> rfl

end Command

/-! ## Runs -/

/-- No session has a draft. -/
def Sessions.Idle (s : Sessions) : Prop := ∀ session ∈ s, session.2 = []

namespace Sessions.Idle

variable {s : Sessions}

theorem drafts (h : s.Idle) (name : String) : s.drafts name = [] := by
  rw [Sessions.drafts]
  cases hlookup : s.lookup name with
  | none => rfl
  | some drafts =>
    obtain ⟨before, after, hs, -⟩ := List.lookup_eq_some_iff.mp hlookup
    exact h (name, drafts) (by rw [hs]; simp)

theorem set (h : s.Idle) (name : String) : (s.set name []).Idle := by
  intro session hsession
  rcases List.mem_cons.mp hsession with rfl | hsession
  · rfl
  · exact h session (List.mem_filter.mp hsession).1

end Sessions.Idle

/-- Turns of one writer, from a sound table to another one, each with what it left behind. -/
inductive Turn.Run : Table → List Turn → List (Except Failure Reply × List LogRecord) → Table → Prop where
  | nil {t : Table} : Run t [] [] t
  | cons {t t' : Table} {turn : Turn} {turns : List Turn} {outcome : Outcome Reply}
      {outcomes : List (Except Failure Reply × List LogRecord)} (hsound : t.Sound)
      (effect : turn.command.Effect t outcome) (rest : Run outcome.table turns outcomes t') :
      Run t (turn :: turns) ((outcome.answer, outcome.logs) :: outcomes) t'

theorem Turn.Run.sound {t t' : Table} {turns : List Turn}
    {outcomes : List (Except Failure Reply × List LogRecord)} (h : Run t turns outcomes t') (hsound : t.Sound) :
    t'.Sound := by
  induction h with
  | nil => exact hsound
  | cons _ effect _ ih => exact ih (effect.sound hsound)

/-- From a sound table and without drafts, turns of one writer are such a run. -/
theorem Turn.run_of_alone {turns : List Turn} (h : ∀ turn ∈ turns, turn.command.Alone) {t : Table}
    (hsound : t.Sound) {sessions : Sessions} (hidle : sessions.Idle) :
    Run t turns (runAll turns sessions t) (leave turns sessions t).2 := by
  induction turns generalizing t sessions with
  | nil => exact .nil
  | cons turn turns ih =>
    have heffect := turn.command.run_effect hsound turn.now (h turn List.mem_cons_self)
    rw [runAll, leave, hidle.drafts, heffect.pending]
    exact .cons hsound heffect
      (ih (fun other hother => h other (List.mem_cons_of_mem _ hother)) (heffect.sound hsound) (hidle.set _))

end SchemaRegistry
