import SchemaRegistry.Proofs.Registry.Race
import SchemaRegistry.Proofs.Registry.StoredVerdict

/-!
# The life of a row

A row is inserted, it may be decided on once, and it is never removed. Nothing else becomes of it, in whatever
order clients take their steps and whatever else the registry is asked between them. What a client believes
about the table may be out of date by the time it acts, and makes no difference: an insertion is guarded by the
key alone and a decision by the state alone, and each of the two guards is enough for every order of steps.
-/

namespace SchemaRegistry

/-! ## Rows -/

namespace Row

/-- The rows have the same number and the same columns but for those that a decision writes. -/
structure SameRegistration (r r' : Row) : Prop where
  id : r'.id = r.id
  keyParts : r'.keyParts = r.keyParts
  description : r'.description = r.description
  format : r'.format = r.format
  mode : r'.mode = r.mode
  attributes : r'.attributes = r.attributes
  createdBy : r'.createdBy = r.createdBy
  createdAt : r'.createdAt = r.createdAt

/-- What becomes of a row: it stays as it is, or it is decided on if it is in the state that decisions start
from. -/
inductive Ages (r : Row) : Row → Prop where
  | stays : Ages r r
  | decided (hopen : r.state = .known .created) (d : Decision) (updatedBy : String)
      (now : Time.DateTime) : Ages r (Table.decidedRow d updatedBy now r)

variable {r r' r'' : Row}

theorem Ages.sameRegistration (h : r.Ages r') : r.SameRegistration r' := by
  cases h <;> constructor <;> rfl

/-- A row in a final state stays as it is. -/
theorem Ages.eq_of_final (h : r.Ages r') (hfinal : r.state ≠ .known .created) : r' = r := by
  cases h with
  | stays => rfl
  | decided hopen => exact absurd hopen hfinal

/-- The state stays, or it goes from created to a final state. -/
theorem Ages.state (h : r.Ages r') :
    r'.state = r.state ∨
      r.state = .known .created ∧ (r'.state = .known .approved ∨ r'.state = .known .rejected) := by
  cases h with
  | stays => exact .inl rfl
  | decided hopen d =>
    refine .inr ⟨hopen, ?_⟩
    cases d with
    | approve => exact .inl rfl
    | reject => exact .inr rfl

/-- A row that has changed its state is in a final state. -/
theorem Ages.final_of_ne (h : r.Ages r') (hne : r'.state ≠ r.state) : r'.state ≠ .known .created := by
  rcases h.state with hsame | ⟨-, happroved | hrejected⟩
  · exact absurd hsame hne
  · simp [happroved]
  · simp [hrejected]

/-- A row that was decided on once is not decided on again. -/
theorem Ages.trans (h : r.Ages r') (h' : r'.Ages r'') : r.Ages r'' := by
  cases h with
  | stays => exact h'
  | decided hopen d updatedBy now =>
    have hfinal : (Table.decidedRow d updatedBy now r).state ≠ .known .created :=
      fun hstate => d.state_ne_created (Stored.known.inj hstate)
    rw [h'.eq_of_final hfinal]
    exact .decided hopen d updatedBy now

end Row

/-! ## Tables -/

namespace Table

variable {t t' : Table} {r r' : Row}

/-- However a table evolves, each of its rows is kept and only ages. -/
theorem Evolves.exists_ages (h : t.Evolves t') (hr : r ∈ t.rows) : ∃ r' ∈ t'.rows, r.Ages r' := by
  induction h with
  | refl => exact ⟨r, hr, .stays⟩
  | insert _ d step ih =>
    obtain ⟨r', hr', hages⟩ := ih
    obtain ⟨-, rfl⟩ := insert?_eq_some_iff.mp step
    exact ⟨r', List.mem_append_left _ hr', hages⟩
  | decide _ id d updatedBy now step ih =>
    obtain ⟨r', hr', hages⟩ := ih
    obtain rfl := eq_ruled_of_decide? step
    refine ⟨_, List.mem_map_of_mem hr', hages.trans ?_⟩
    split
    case isTrue hopen =>
      simp only [isOpen, Bool.and_eq_true, beq_iff_eq] at hopen
      exact .decided hopen.2 d updatedBy now
    case isFalse => exact .stays

/-- However a table evolves, its entries stay, and so do the rulings on them. -/
theorem Evolves.keeps (h : t.Evolves t') : t.Keeps t' := by
  intro id e he
  obtain ⟨r, hr, hages⟩ := h.exists_ages he
  cases hages with
  | stays => exact ⟨e, hr, .stays⟩
  | decided hopen d updatedBy now =>
    have hruling : e.ruling = none := Entry.state_eq_created.mp (Stored.known.inj hopen)
    rw [decidedRow_row hruling] at hr
    exact ⟨_, hr, .ruled hruling _⟩

/-- An insertion that succeeds leaves the table sound: the check of the key is enough. -/
theorem Sound.insert? {d : Draft} (h : t.Sound) (hinsert : t.insert? d = some t') : t'.Sound := by
  obtain ⟨hnone, rfl⟩ := insert?_eq_some_iff.mp hinsert
  refine h.add fun id e he hkey => ?_
  rw [← hkey, rowOf?_of_holds h he] at hnone
  cases hnone

/-- However a sound table evolves, it stays sound. -/
theorem Sound.evolves (h : t.Sound) (hevolves : t.Evolves t') : t'.Sound := by
  induction hevolves with
  | refl => exact h
  | insert _ d step ih => exact ih.insert? step
  | decide _ id d updatedBy now step ih =>
    obtain rfl := eq_ruled_of_decide? step
    exact ih.ruled

/-- In a sound table the row with a number is one. -/
theorem Sound.row_eq (h : t.Sound) (hr : r ∈ t.rows) (hr' : r' ∈ t.rows) (hid : r'.id = r.id) : r' = r :=
  List.inj_on_of_nodup_map h.ids hr' hr hid

/-- A row of an earlier table has become the row with its number. -/
theorem Sound.ages (h : t'.Sound) (hevolves : t.Evolves t') (hr : r ∈ t.rows) (hr' : r' ∈ t'.rows)
    (hid : r'.id = r.id) : r.Ages r' := by
  obtain ⟨r'', hr'', hages⟩ := hevolves.exists_ages hr
  rwa [h.row_eq hr'' hr' (hid.trans hages.sameRegistration.id.symm)]

/-- A row of a sound table tells who decided on it and when just if it is no longer in the state that
decisions start from. -/
theorem Sound.created_iff (h : t.Sound) (hr : r ∈ t.rows) :
    (r.state = .known .created ↔ r.updatedBy = none) ∧
      (r.state = .known .created ↔ r.updatedAt = none) := by
  obtain ⟨e, he⟩ := h.rows r hr
  rw [he]
  simp [Entry.row, Entry.state_eq_created]

end Table

/-! ## Events -/

/-- A step of a client inserts a row, decides on one, or leaves the table alone, whatever the client believes
about it. -/
theorem Job.step_evolves (now : Time.DateTime) (t : Table) (j : Job) (p : Job.Progress) :
    t.Evolves (j.step now t p).1 := by
  unfold Job.step
  split
  case h_2 r =>
    split
    · exact .refl
    case h_2 hinsert => exact .insert .refl _ hinsert
  case h_4 d k updatedBy id =>
    split
    · exact .refl
    case h_2 hdecide => exact .decide .refl id d updatedBy now hdecide
  case h_1 => split <;> exact .refl
  case h_3 => split <;> exact .refl
  all_goals exact .refl

/-- What happens next: a client takes its next step, or a command that does not tamper is run as a whole, in a
session with some drafts. Reading and listing schemas and judging host types are such commands. -/
inductive Event (ι : Type) where
  | step (m : Move ι)
  | command (now : Time.Reading) (c : Command) (proper : c.Proper) (drafts : List Table.Draft)

namespace World

variable {ι : Type} [DecidableEq ι]

/-- The world after an event. -/
def happen (jobs : ι → Job) (w : World ι) : Event ι → World ι
  | .step m => w.move jobs m
  | .command now c _ drafts => { w with table := (c.run now ⟨w.table, drafts⟩).table }

/-- The world that events make of the empty table, on which no client has begun. -/
def course (jobs : ι → Job) (events : List (Event ι)) : World ι := events.foldl (happen jobs) start

/-- The event changes the state of the row with the number, after some events. -/
def ChangesState (jobs : ι → Job) (earlier : List (Event ι)) (event : Event ι) (id : Int) : Prop :=
  ∃ r ∈ (course jobs earlier).table.rows, ∃ r' ∈ (course jobs (earlier ++ [event])).table.rows,
    r.id = id ∧ r'.id = id ∧ r'.state ≠ r.state

variable {jobs : ι → Job}

theorem happen_evolves (w : World ι) (event : Event ι) :
    w.table.Evolves (w.happen jobs event).table := by
  cases event with
  | step m => exact (jobs m.client).step_evolves m.now w.table (w.progress m.client)
  | command now c proper drafts => exact c.run_evolves now proper ⟨w.table, drafts⟩

theorem foldl_happen_evolves (w : World ι) (events : List (Event ι)) :
    w.table.Evolves (events.foldl (happen jobs) w).table := by
  induction events generalizing w with
  | nil => exact .refl
  | cons event rest ih => exact (w.happen_evolves event).trans (ih (w.happen jobs event))

/-- Later events make the table evolve from where earlier ones left it. -/
theorem course_evolves (earlier later : List (Event ι)) :
    (course jobs earlier).table.Evolves (course jobs (earlier ++ later)).table := by
  rw [course, course, List.foldl_append]
  exact foldl_happen_evolves _ later

theorem sound_course (events : List (Event ι)) : (course jobs events).table.Sound :=
  Table.Sound.empty.evolves (foldl_happen_evolves start events)

/-- A row has become the row with its number by the time that more has happened. -/
theorem ages_course {earlier later : List (Event ι)} {r r' : Row}
    (hr : r ∈ (course jobs earlier).table.rows)
    (hr' : r' ∈ (course jobs (earlier ++ later)).table.rows) (hid : r'.id = r.id) : r.Ages r' :=
  (sound_course _).ages (course_evolves earlier later) hr hr' hid

end World

/-! ## The lives of all rows -/

variable {ι : Type} [DecidableEq ι]

/-- What holds of the rows of the table once events have happened in some order. -/
structure RowsSafe (jobs : ι → Job) (events : List (Event ι)) : Prop where
  /-- No two rows have the same key. -/
  keys_differ : (World.course jobs events).table.rows.Pairwise fun r r' => r.keyParts ≠ r'.keyParts
  /-- A row that was there at any time is still there, as the only row with its number. -/
  row_stays : ∀ earlier later, events = earlier ++ later →
    ∀ r ∈ (World.course jobs earlier).table.rows,
      ∃! r', r' ∈ (World.course jobs events).table.rows ∧ r'.id = r.id
  /-- What registering wrote into a row never changes. -/
  registration_stays : ∀ earlier later, events = earlier ++ later →
    ∀ r ∈ (World.course jobs earlier).table.rows, ∀ r' ∈ (World.course jobs events).table.rows,
      r'.id = r.id → r.SameRegistration r'
  /-- The state of a row is what it was at any time, or it was created and is now approved or rejected. -/
  state_ages : ∀ earlier later, events = earlier ++ later →
    ∀ r ∈ (World.course jobs earlier).table.rows, ∀ r' ∈ (World.course jobs events).table.rows,
      r'.id = r.id → r'.state = r.state ∨
        r.state = .known .created ∧ (r'.state = .known .approved ∨ r'.state = .known .rejected)
  /-- After an event that changes the state of a row, no event changes it again. -/
  state_changes_once : ∀ id earlier event between event' later,
    events = earlier ++ event :: (between ++ event' :: later) →
    World.ChangesState jobs earlier event id →
    ¬ World.ChangesState jobs (earlier ++ event :: between) event' id
  /-- A row that is created tells neither by whom nor when it was decided on, and every other row tells
  both. -/
  created_iff : ∀ r ∈ (World.course jobs events).table.rows,
    (r.state = .known .created ↔ r.updatedBy = none) ∧
      (r.state = .known .created ↔ r.updatedAt = none)

/-- **Rows are safe**, whatever clients have to do, in whatever order they take their steps, and whatever the
registry is asked between them. -/
theorem rowsSafe (jobs : ι → Job) (events : List (Event ι)) : RowsSafe jobs events where
  keys_differ := List.pairwise_map.mp (World.sound_course events).keys
  row_stays earlier later hevents r hr := by
    subst hevents
    obtain ⟨r', hr', hages⟩ := (World.course_evolves earlier later).exists_ages hr
    have hid := hages.sameRegistration.id
    exact ⟨r', ⟨hr', hid⟩, fun r'' hr'' =>
      (World.sound_course _).row_eq hr' hr''.1 (hr''.2.trans hid.symm)⟩
  registration_stays earlier later hevents r hr r' hr' hid := by
    subst hevents
    exact (World.ages_course hr hr' hid).sameRegistration
  state_ages earlier later hevents r hr r' hr' hid := by
    subst hevents
    exact (World.ages_course hr hr' hid).state
  state_changes_once id earlier event between event' later _ := by
    rintro ⟨r₁, hr₁, r₂, hr₂, hid₁, hid₂, hchanged⟩ ⟨r₃, hr₃, r₄, hr₄, hid₃, hid₄, hagain⟩
    have hfinal : r₂.state ≠ .known .created :=
      (World.ages_course hr₁ hr₂ (hid₂.trans hid₁.symm)).final_of_ne hchanged
    -- Once its state is final, the row is the same before and after the second event.
    have hsplit : earlier ++ event :: between = earlier ++ [event] ++ between := List.append_cons ..
    rw [hsplit] at hr₃
    rw [hsplit, List.append_assoc _ between] at hr₄
    have heq₃ : r₃ = r₂ := (World.ages_course hr₂ hr₃ (hid₃.trans hid₂.symm)).eq_of_final hfinal
    have heq₄ : r₄ = r₂ := (World.ages_course hr₂ hr₄ (hid₄.trans hid₂.symm)).eq_of_final hfinal
    exact hagain (by rw [heq₃, heq₄])
  created_iff _ hr := (World.sound_course events).created_iff hr

end SchemaRegistry
