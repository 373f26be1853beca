import SchemaRegistry.Proofs.Registry.SoundOperations

/-!
# The registry as a map

A ledger binds keys to entries. It has no rows, no numbers and no stored texts: registering a schema binds its
key, a decision puts a ruling on the entry that a key is bound to, and reading looks the key up. As long as one
writer acts at a time, the registry answers every call as the ledger does.
-/

namespace SchemaRegistry

/-! ## Calls -/

/-- A call to the registry. -/
inductive Call where
  | create (r : Registration)
  | get (k : Key)
  | decide (d : Decision) (k : Key) (updatedBy : String)

namespace Call

/-- Makes a call at what the clock shows. Nothing happens between its steps. -/
def run (now : Time.Reading) (s : Stage) : Call → Outcome Details
  | create r => Registry.create s now .none r
  | get k => Registry.reading s (Registry.get s.table k)
  | decide d k updatedBy => Registry.decide s now .none k d updatedBy

/-- Makes calls one after the other, each where the one before it ended. -/
def runAll : List (Time.Reading × Call) → Stage → List (Except Failure Details)
  | [], _ => []
  | (now, c) :: rest, s =>
    let outcome := c.run now s
    outcome.answer :: runAll rest ⟨outcome.table, outcome.pending⟩

end Call

/-! ## Ledgers -/

/-- What the keys are bound to. -/
abbrev Ledger := Key → Option Entry

namespace Ledger

/-- No key is bound. -/
def empty : Ledger := fun _ => none

/-- The ledger with the key of an entry bound to it. -/
def bind (m : Ledger) (e : Entry) : Ledger := Function.update m e.key (some e)

/-- The ledger that a call leaves behind and the answer to it, at what the clock shows. -/
def step (now : Time.Reading) (m : Ledger) : Call → Except Failure Details × Ledger
  | .create r =>
    match m r.key, now with
    | some _, _ => (.error (.service (.alreadyExists r.key.reference)), m)
    | none, none => (.error .clockOutOfRange, m)
    | none, some now =>
      let e : Entry := ⟨r, now.dropOffset, none⟩
      (.ok e.details, m.bind e)
  | .get k =>
    match m k with
    | none => (.error (.service (.notFound k.reference)), m)
    | some e => (.ok e.details, m)
  | .decide d k updatedBy =>
    match m k, now with
    | none, _ => (.error (.service (.notFound k.reference)), m)
    | some _, none => (.error .clockOutOfRange, m)
    | some e, some now =>
      if e.state = .created then
        let e := e.rule (.made d updatedBy now)
        (.ok e.details, m.bind e)
      else (.error (.service (.invalidTransition k.reference e.state.word d.state.word)), m)

/-- The answers to calls that are made one after the other. -/
def runAll : List (Time.Reading × Call) → Ledger → List (Except Failure Details)
  | [], _ => []
  | (now, c) :: rest, m =>
    let (answer, m) := m.step now c
    answer :: runAll rest m

end Ledger

/-! ## A table represents a ledger -/

/-- The table holds what the ledger binds, under some numbers, and is sound. -/
structure Table.Represents (t : Table) (m : Ledger) : Prop where
  sound : t.Sound
  bound : ∀ k e, m k = some e ↔ ∃ id, t.Holds id e ∧ e.key = k

namespace Table.Represents

variable {t : Table} {m : Ledger} {k : Key} {e : Entry} {id : Int} {d : Draft}

theorem empty : Table.empty.Represents .empty where
  sound := .empty
  bound := by simp [Ledger.empty, Table.empty, Holds]

/-- A key that is not bound is free. -/
theorem free (h : t.Represents m) (hk : m k = none) : t.Free k := by
  intro id e he hkey
  have := (h.bound k e).mpr ⟨id, he, hkey⟩
  rw [hk] at this
  cases this

/-- A new entry is bound. -/
theorem add (h : t.Represents m) (hk : t.Free d.registration.key) :
    (t.add d).Represents (m.bind d.entry) where
  sound := h.sound.add hk
  bound := by
    intro k e
    simp only [Ledger.bind, holds_add]
    by_cases hkey : k = d.entry.key
    · subst hkey
      rw [Function.update_self, Option.some_inj]
      constructor
      · rintro rfl
        exact ⟨t.nextId, .inr ⟨rfl, rfl⟩, rfl⟩
      · rintro ⟨id, he | ⟨-, rfl⟩, hkey⟩
        · exact absurd hkey (hk id e he)
        · rfl
    · rw [Function.update_of_ne hkey, h.bound]
      refine exists_congr fun id => and_congr_left fun hk => ?_
      refine ⟨.inl, ?_⟩
      rintro (he | ⟨-, rfl⟩)
      · exact he
      · exact absurd hk.symm hkey

/-- An entry that is ruled on stays bound, with its ruling. -/
theorem ruled (h : t.Represents m) (he : t.Holds id e) (hopen : e.ruling = none) (d : Decision)
    (updatedBy : String) (now : Time.DateTime) :
    (t.ruled id d updatedBy now).Represents (m.bind (e.rule (.made d updatedBy now))) where
  sound := h.sound.ruled
  bound := by
    intro k e'
    simp only [Ledger.bind, holds_ruled h.sound he hopen, Entry.rule_key]
    by_cases hkey : k = e.key
    · subst hkey
      rw [Function.update_self, Option.some_inj]
      constructor
      · rintro rfl
        exact ⟨id, by rw [if_pos rfl], rfl⟩
      · rintro ⟨id', he', hk⟩
        split at he'
        · exact he'.symm
        · case isFalse hid => exact absurd (h.sound.eq_of_key he' he hk).1 hid
    · -- Under another key stands another entry, which the decision leaves alone.
      rw [Function.update_of_ne hkey, h.bound]
      refine exists_congr fun id' => and_congr_left fun hk => ?_
      split
      case isTrue hid =>
        subst hid
        constructor
        · intro he'
          exact absurd (h.sound.entry_eq he he' ▸ hk.symm) hkey
        · rintro rfl
          exact absurd hk.symm hkey
      case isFalse => exact Iff.rfl

end Table.Represents

/-! ## Refinement -/

/-- One call: the registry answers as the ledger does, and its table represents what the ledger becomes. No
draft stays behind. -/
theorem Table.Represents.step {t : Table} {m : Ledger} (h : t.Represents m) (now : Time.Reading)
    (c : Call) :
    (c.run now ⟨t, []⟩).answer = (m.step now c).1 ∧
      (c.run now ⟨t, []⟩).table.Represents (m.step now c).2 ∧ (c.run now ⟨t, []⟩).pending = [] := by
  cases c with
  | create r =>
    simp only [Call.run, Ledger.step]
    cases hm : m r.key with
    | some e =>
      obtain ⟨id, he, hkey⟩ := (h.bound _ _).mp hm
      rw [Registry.create_of_holds h.sound he hkey]
      exact ⟨rfl, h, rfl⟩
    | none =>
      have hfree := h.free hm
      cases now with
      | none =>
        simp only [Registry.create, find?_of_free h.sound hfree]
        exact ⟨rfl, h, rfl⟩
      | some now =>
        rw [Registry.create_of_free h.sound hfree]
        exact ⟨rfl, h.add hfree, rfl⟩
  | get k =>
    simp only [Call.run, Ledger.step]
    cases hm : m k with
    | none =>
      rw [Registry.get_of_free h.sound (h.free hm)]
      exact ⟨rfl, h, rfl⟩
    | some e =>
      obtain ⟨id, he, rfl⟩ := (h.bound _ _).mp hm
      rw [Registry.get_of_holds h.sound he]
      exact ⟨rfl, h, rfl⟩
  | decide d k updatedBy =>
    simp only [Call.run, Ledger.step]
    cases hm : m k with
    | none =>
      rw [Registry.decide_of_free h.sound (h.free hm)]
      exact ⟨rfl, h, rfl⟩
    | some e =>
      obtain ⟨id, he, rfl⟩ := (h.bound _ _).mp hm
      cases now with
      | none =>
        simp only [Registry.decide, require_of_holds h.sound he]
        exact ⟨rfl, h, rfl⟩
      | some now =>
        by_cases hopen : e.ruling = none
        · rw [Registry.decide_of_open h.sound he hopen]
          simp only [if_pos (Entry.state_eq_created.mpr hopen), true_and, and_true]
          exact h.ruled he hopen d updatedBy now
        · rw [Registry.decide_of_closed h.sound he hopen]
          simp only [if_neg fun hstate => hopen (Entry.state_eq_created.mp hstate)]
          exact ⟨rfl, h, rfl⟩

/-- A run from a table that represents a ledger is answered as by the ledger. -/
theorem Table.Represents.runAll {t : Table} {m : Ledger} (h : t.Represents m)
    (calls : List (Time.Reading × Call)) : Call.runAll calls ⟨t, []⟩ = Ledger.runAll calls m := by
  induction calls generalizing t m with
  | nil => rfl
  | cons head rest ih =>
    obtain ⟨now, c⟩ := head
    obtain ⟨hanswer, htable, hpending⟩ := h.step now c
    simp only [Call.runAll, Ledger.runAll, hanswer, hpending, ih htable]

/-- **The registry is a map.** From the empty table on, each of any calls in any order is answered as the
ledger answers it. -/
theorem Ledger.answers_of_registry (calls : List (Time.Reading × Call)) :
    Call.runAll calls ⟨.empty, []⟩ = Ledger.runAll calls .empty :=
  Table.Represents.empty.runAll calls

end SchemaRegistry
