import Mathlib.Data.List.Nodup
import Mathlib.Data.List.Perm.Subperm
import SchemaRegistry.Proofs.Registry.Entry
import SchemaRegistry.Registry.Table

/-!
# Sound tables

A table is sound if each of its rows holds an entry and no two rows share a number or a key. The empty table is
sound, and the two steps that change a table keep it so: an insertion puts a new entry under a number that no
row has, and a decision puts a ruling on an entry that had none. Nothing else becomes of an entry.
-/

namespace SchemaRegistry

/-! ## The number of a new row -/

namespace Table

/-- If the search for a free number fails, all numbers it tried are taken. -/
theorem mem_of_freeFrom_mem {taken : List Int} {n : Int} {tries : Nat}
    (h : freeFrom taken n tries ∈ taken) : ∀ i ≤ tries, n + (i : Int) ∈ taken := by
  induction tries generalizing n with
  | zero =>
    intro i hi
    obtain rfl : i = 0 := by omega
    simpa [freeFrom] using h
  | succ tries ih =>
    rw [freeFrom] at h
    by_cases hn : n ∈ taken
    · rw [if_pos (List.contains_iff_mem.mpr hn)] at h
      intro i hi
      cases i with
      | zero => simpa using hn
      | succ i =>
        have hmem := ih h i (by omega)
        rwa [add_assoc, add_comm 1, ← Nat.cast_succ] at hmem
    · rw [if_neg (by simpa using hn)] at h
      exact absurd h hn

/-- Among more numbers than are taken one is free. -/
theorem freeFrom_not_mem (taken : List Int) (n : Int) : freeFrom taken n taken.length ∉ taken := by
  intro h
  let tried := (List.range (taken.length + 1)).map fun i : Nat => n + (i : Int)
  have hnodup : tried.Nodup := List.nodup_range.map fun i j hij => by simpa using hij
  have hsub : tried ⊆ taken := by
    intro m hm
    obtain ⟨i, hi, rfl⟩ := List.mem_map.mp hm
    exact mem_of_freeFrom_mem h i (by simpa [Nat.lt_succ_iff] using hi)
  -- One number more was tried than there are numbers that are taken.
  have hlength := (List.subperm_of_subset hnodup hsub).length_le
  simp [tried] at hlength

theorem le_foldl_max (l : List Int) (first : Int) :
    first ≤ l.foldl max first ∧ ∀ n ∈ l, n ≤ l.foldl max first := by
  induction l generalizing first with
  | nil => simp
  | cons m l ih =>
    obtain ⟨hfirst, hl⟩ := ih (max first m)
    refine ⟨le_trans (le_max_left _ _) hfirst, fun n hn => ?_⟩
    rcases List.mem_cons.mp hn with rfl | hn
    · exact le_trans (le_max_right _ _) hfirst
    · exact hl n hn

/-- No row has the number of a new row. -/
theorem nextId_not_mem (t : Table) : t.nextId ∉ t.rows.map Row.id := by
  unfold nextId
  simp only
  split
  case h_1 hids => simp [hids]
  case h_2 first rest hids =>
    split
    case isTrue =>
      -- One more than the greatest number is greater than each.
      intro hmem
      obtain ⟨hfirst, hrest⟩ := le_foldl_max rest first
      rw [hids] at hmem
      rcases List.mem_cons.mp hmem with h | h
      · omega
      · have := hrest _ h
        omega
    case isFalse => exact freeFrom_not_mem _ 1

/-! ## Sound tables -/

/-- An entry stands in the table under a number. -/
def Holds (t : Table) (id : Int) (e : Entry) : Prop := e.row id ∈ t.rows

/-- No entry of the table has the key. -/
def Free (t : Table) (k : Key) : Prop := ∀ id e, t.Holds id e → e.key ≠ k

theorem free_empty (k : Key) : empty.Free k := by
  simp [Free, Holds, empty]

/-- Each row holds an entry, and no two rows share a number or a key. -/
structure Sound (t : Table) : Prop where
  rows : ∀ r ∈ t.rows, ∃ e : Entry, r = e.row r.id
  ids : (t.rows.map Row.id).Nodup
  keys : (t.rows.map Row.keyParts).Nodup

theorem Sound.empty : empty.Sound := ⟨by simp [Table.empty], List.nodup_nil, List.nodup_nil⟩

theorem keyParts_row (id : Int) (e : Entry) :
    (e.row id).keyParts = (e.key.space.text, e.key.name.text, e.key.version.text) := rfl

variable {t : Table} {id id' : Int} {e e' : Entry} {k : Key}

/-- Under one number stands one entry. -/
theorem Sound.entry_eq (h : t.Sound) (he : t.Holds id e) (he' : t.Holds id e') : e = e' :=
  (Entry.row_injective (List.inj_on_of_nodup_map h.ids he he' rfl)).2

/-- A key has one number and one entry. -/
theorem Sound.eq_of_key (h : t.Sound) (he : t.Holds id e) (he' : t.Holds id' e')
    (hkey : e.key = e'.key) : id = id' ∧ e = e' :=
  Entry.row_injective
    (List.inj_on_of_nodup_map h.keys he he' (by rw [keyParts_row, keyParts_row, hkey]))

/-- A key is free or has an entry. -/
theorem free_or_holds (t : Table) (k : Key) : t.Free k ∨ ∃ id e, t.Holds id e ∧ e.key = k := by
  by_cases h : ∃ id e, t.Holds id e ∧ e.key = k
  · exact .inr h
  · exact .inl fun id e he hkey => h ⟨id, e, he, hkey⟩

/-! ## Finding entries -/

theorem rowOf?_of_free (h : t.Sound) (hk : t.Free k) : t.rowOf? k = none := by
  rw [rowOf?, List.find?_eq_none]
  intro r hr
  obtain ⟨e, he⟩ := h.rows r hr
  rw [he] at hr ⊢
  exact fun hkey => hk _ e hr (Entry.hasKey_row.mp hkey)

theorem rowOf?_of_holds (h : t.Sound) (he : t.Holds id e) : t.rowOf? e.key = some (e.row id) := by
  cases hfind : t.rowOf? e.key with
  | none =>
    rw [rowOf?, List.find?_eq_none] at hfind
    exact absurd (Entry.hasKey_row.mpr rfl) (hfind _ he)
  | some r =>
    have hmem : r ∈ t.rows := List.mem_of_find?_eq_some hfind
    have hkey : r.hasKey e.key := by simpa using List.find?_some hfind
    -- The row that is found first is no other, as no two rows share a key.
    obtain ⟨e', he'⟩ := h.rows r hmem
    rw [he'] at hmem hkey
    obtain ⟨hid, rfl⟩ := h.eq_of_key hmem he (Entry.hasKey_row.mp hkey)
    rw [he', hid]

theorem rowById?_of_holds (h : t.Sound) (he : t.Holds id e) : t.rowById? id = some (e.row id) := by
  cases hfind : t.rowById? id with
  | none =>
    rw [rowById?, List.find?_eq_none] at hfind
    exact absurd (beq_self_eq_true id) (hfind _ he)
  | some r =>
    have hid : r.id = id := by simpa using List.find?_some hfind
    rw [List.inj_on_of_nodup_map h.ids (List.mem_of_find?_eq_some hfind) he hid]

/-- The entry of a key is found. -/
theorem find?_of_holds (h : t.Sound) (he : t.Holds id e) :
    t.find? e.key = .ok (some (e.loaded id)) := by
  rw [find?, rowOf?_of_holds h he]
  simp only [Entry.load_row]
  rfl

/-- A free key is not found. -/
theorem find?_of_free (h : t.Sound) (hk : t.Free k) : t.find? k = .ok none := by
  rw [find?, rowOf?_of_free h hk]

theorem require_of_holds (h : t.Sound) (he : t.Holds id e) : t.require e.key = .ok (e.loaded id) := by
  rw [require, find?_of_holds h he]
  rfl

theorem require_of_free (h : t.Sound) (hk : t.Free k) :
    t.require k = .error (.service (.notFound k.reference)) := by
  rw [require, find?_of_free h hk]
  rfl

/-! ## Inserting an entry -/

/-- The entry that a draft becomes. -/
def Draft.entry (d : Draft) : Entry := ⟨d.registration, d.createdAt.dropOffset, none⟩

@[simp]
theorem Draft.entry_key (d : Draft) : d.entry.key = d.registration.key := rfl

theorem newRow_eq (id : Int) (d : Draft) : newRow id d = d.entry.row id := rfl

/-- The table with the row of a new schema. -/
def add (t : Table) (d : Draft) : Table := ⟨t.rows ++ [newRow t.nextId d]⟩

variable {d : Draft}

theorem holds_add : (t.add d).Holds id e ↔ t.Holds id e ∨ id = t.nextId ∧ e = d.entry := by
  rw [Holds, add, List.mem_append, List.mem_singleton, newRow_eq]
  refine or_congr Iff.rfl ⟨Entry.row_injective, ?_⟩
  rintro ⟨rfl, rfl⟩
  rfl

/-- The new entry is in the table. -/
theorem holds_new (t : Table) (d : Draft) : (t.add d).Holds t.nextId d.entry :=
  holds_add.mpr (.inr ⟨rfl, rfl⟩)

theorem insert?_of_holds (h : t.Sound) (he : t.Holds id e) (hkey : e.key = d.registration.key) :
    t.insert? d = none := by
  rw [insert?, ← hkey, rowOf?_of_holds h he]
  rfl

theorem insert?_of_free (h : t.Sound) (hk : t.Free d.registration.key) :
    t.insert? d = some (t.add d) := by
  rw [insert?, rowOf?_of_free h hk]
  rfl

/-- A new entry with a free key leaves the table sound. -/
theorem Sound.add (h : t.Sound) (hk : t.Free d.registration.key) : (t.add d).Sound where
  rows := by
    intro r hr
    rcases List.mem_append.mp hr with hr | hr
    · exact h.rows r hr
    · obtain rfl := List.mem_singleton.mp hr
      exact ⟨d.entry, rfl⟩
  ids := by
    rw [Table.add, List.map_append, List.nodup_append']
    exact ⟨h.ids, List.nodup_singleton _, by simpa [newRow] using t.nextId_not_mem⟩
  keys := by
    rw [Table.add, List.map_append, List.nodup_append']
    refine ⟨h.keys, List.nodup_singleton _, ?_⟩
    rw [List.map_singleton, List.disjoint_singleton]
    intro hmem
    obtain ⟨r, hr, hparts⟩ := List.mem_map.mp hmem
    obtain ⟨e, he⟩ := h.rows r hr
    rw [he] at hr hparts
    obtain ⟨hspace, hname, hversion⟩ := by
      simpa [keyParts_row, newRow_eq, Draft.entry, Entry.key] using hparts
    exact hk _ e hr (Key.ext_text hspace hname hversion)

/-! ## Ruling on an entry -/

/-- The table after a decision on the row with a number. -/
def ruled (t : Table) (id : Int) (d : Decision) (updatedBy : String) (now : Time.DateTime) : Table :=
  ⟨t.rows.map fun r => if isOpen id r then decidedRow d updatedBy now r else r⟩

variable {decision : Decision} {updatedBy : String} {now : Time.DateTime}

theorem isOpen_row : isOpen id (e.row id') ↔ id' = id ∧ e.ruling = none := by
  rw [← Entry.state_eq_created]
  simp [isOpen, Entry.row]

/-- A row that is decided on holds the entry with the ruling. -/
theorem decidedRow_row (hopen : e.ruling = none) :
    decidedRow decision updatedBy now (e.row id) = (e.rule (.made decision updatedBy now)).row id := by
  obtain ⟨registration, createdAt, ruling⟩ := e
  obtain rfl := hopen
  rfl

theorem decide?_of_open (he : t.Holds id e) (hopen : e.ruling = none) :
    t.decide? id decision updatedBy now = some (t.ruled id decision updatedBy now) := by
  have hany : t.rows.any (isOpen id) := List.any_eq_true.mpr ⟨_, he, isOpen_row.mpr ⟨rfl, hopen⟩⟩
  rw [decide?, if_pos hany]
  rfl

/-- No second decision is made. -/
theorem decide?_of_closed (h : t.Sound) (he : t.Holds id e) (hclosed : e.ruling ≠ none) :
    t.decide? id decision updatedBy now = none := by
  refine if_neg fun hany => ?_
  obtain ⟨r, hr, hopen⟩ := List.any_eq_true.mp hany
  obtain ⟨e', he'⟩ := h.rows r hr
  rw [he'] at hr hopen
  obtain ⟨hid, hopen⟩ := isOpen_row.mp hopen
  rw [hid] at hr
  exact hclosed (h.entry_eq he hr ▸ hopen)

/-- A decision puts the ruling on the entry with the number and leaves the others alone. -/
theorem holds_ruled (h : t.Sound) (he : t.Holds id e) (hopen : e.ruling = none) :
    (t.ruled id decision updatedBy now).Holds id' e' ↔
      if id' = id then e' = e.rule (.made decision updatedBy now) else t.Holds id' e' := by
  constructor
  · intro he'
    obtain ⟨r, hr, hrow⟩ := List.mem_map.mp he'
    obtain ⟨e₀, he₀⟩ := h.rows r hr
    rw [he₀] at hr hrow
    -- The row with the number holds the entry that is ruled on, and every other row is kept.
    by_cases hid : r.id = id
    · rw [hid] at hr hrow
      obtain rfl := h.entry_eq he hr
      rw [if_pos (isOpen_row.mpr ⟨rfl, hopen⟩), decidedRow_row hopen] at hrow
      obtain ⟨rfl, rfl⟩ := Entry.row_injective hrow
      rw [if_pos rfl]
    · rw [if_neg fun hopen => hid (isOpen_row.mp hopen).1] at hrow
      obtain ⟨rfl, rfl⟩ := Entry.row_injective hrow
      rwa [if_neg hid]
  · intro he'
    split at he'
    case isTrue hid =>
      obtain rfl := hid
      obtain rfl := he'
      refine List.mem_map.mpr ⟨_, he, ?_⟩
      rw [if_pos (isOpen_row.mpr ⟨rfl, hopen⟩), decidedRow_row hopen]
    case isFalse hid =>
      refine List.mem_map.mpr ⟨_, he', ?_⟩
      rw [if_neg fun hopen => hid (isOpen_row.mp hopen).1]

/-- The entry with the ruling is in the table. -/
theorem holds_rule (h : t.Sound) (he : t.Holds id e) (hopen : e.ruling = none) (decision : Decision)
    (updatedBy : String) (now : Time.DateTime) :
    (t.ruled id decision updatedBy now).Holds id (e.rule (.made decision updatedBy now)) :=
  (holds_ruled h he hopen).mpr (by rw [if_pos rfl])

/-- What a decision leaves alone in each row. -/
theorem map_ruled {α : Type} {f : Row → α} (hf : ∀ r, f (decidedRow decision updatedBy now r) = f r) :
    (t.ruled id decision updatedBy now).rows.map f = t.rows.map f := by
  rw [ruled, List.map_map]
  refine List.map_congr_left fun r _ => ?_
  rw [Function.comp_apply]
  split
  · exact hf r
  · rfl

/-- A decision leaves the table sound. -/
theorem Sound.ruled (h : t.Sound) : (t.ruled id decision updatedBy now).Sound where
  rows := by
    intro r hr
    obtain ⟨r₀, hr₀, rfl⟩ := List.mem_map.mp hr
    obtain ⟨e, he⟩ := h.rows r₀ hr₀
    by_cases hopen : isOpen id r₀
    · refine ⟨e.rule (.made decision updatedBy now), ?_⟩
      rw [if_pos hopen, he]
      rw [he] at hopen
      exact decidedRow_row (isOpen_row.mp hopen).2
    · rw [if_neg hopen]
      exact ⟨e, he⟩
  ids := by
    rw [map_ruled fun _ => rfl]
    exact h.ids
  keys := by
    rw [map_ruled fun _ => rfl]
    exact h.keys

/-! ## What becomes of an entry -/

/-- Each entry stays in the table under its number, and a ruling on it stays as well. -/
def Keeps (t t' : Table) : Prop := ∀ id e, t.Holds id e → ∃ e', t'.Holds id e' ∧ e.Becomes e'

theorem Keeps.refl (t : Table) : t.Keeps t := fun _ e he => ⟨e, he, .stays⟩

theorem keeps_add (t : Table) (d : Draft) : t.Keeps (t.add d) :=
  fun _ e he => ⟨e, holds_add.mpr (.inl he), .stays⟩

theorem keeps_ruled (h : t.Sound) (he : t.Holds id e) (hopen : e.ruling = none) :
    t.Keeps (t.ruled id decision updatedBy now) := by
  intro id' e' he'
  by_cases hid : id' = id
  · subst hid
    obtain rfl := h.entry_eq he he'
    exact ⟨_, holds_rule h he hopen .., .ruled hopen _⟩
  · exact ⟨e', (holds_ruled h he hopen).mpr (by rwa [if_neg hid]), .stays⟩

end Table

end SchemaRegistry
