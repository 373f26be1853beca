import SchemaRegistry.Proofs.Registry.SoundTable
import SchemaRegistry.Registry.Operations

/-!
# Operations on sound tables

On a sound table an operation depends on no more than the entry of its key. There is one lemma for a key that is
free and one for a key that has an entry; a decision also tells an entry with a ruling from one without. Where
an operation changes the table, nothing happens between its steps and no draft is left to be inserted.
-/

namespace SchemaRegistry

/-- A computation that succeeds on each item of a list succeeds on the list. -/
theorem exists_mapM_eq_ok {ε α β : Type} {f : α → Except ε β} {P : β → Prop} {l : List α}
    (h : ∀ a ∈ l, ∃ b, f a = .ok b ∧ P b) : ∃ bs, l.mapM f = .ok bs ∧ ∀ b ∈ bs, P b := by
  induction l with
  | nil => exact ⟨[], rfl, by simp⟩
  | cons a l ih =>
    obtain ⟨b, hb, hP⟩ := h a (by simp)
    obtain ⟨bs, hbs, hall⟩ := ih fun a ha => h a (by simp [ha])
    refine ⟨b :: bs, ?_, by simpa [hP] using hall⟩
    rw [List.mapM_cons, hb, hbs]
    rfl

/-- Ordering rows by key neither adds nor drops a row. -/
theorem Table.mem_sorted {r : Row} {rows : List Row} : r ∈ sorted rows ↔ r ∈ rows := by
  have hinsert (new : Row) (ordered : List Row) : r ∈ insertByKey new ordered ↔ r = new ∨ r ∈ ordered := by
    induction ordered with
    | nil => simp [insertByKey]
    | cons head rest ih =>
      rw [insertByKey]
      split
      · simp
      · simp only [List.mem_cons, ih, or_left_comm]
  induction rows with
  | nil => rfl
  | cons head rest ih =>
    rw [sorted, List.foldr_cons, hinsert, List.mem_cons]
    exact or_congr_right ih

namespace Registry

variable {t : Table} {k : Key} {e : Entry} {id : Int} {r : Registration} {d : Decision}
  {updatedBy : String} {now : Time.DateTime}

/-! ## Reading -/

/-- A reader gets the details of the entry. -/
theorem get_of_holds (h : t.Sound) (he : t.Holds id e) : get t e.key = .ok e.details := by
  rw [get, Table.require_of_holds h he]
  exact e.details_loaded id

theorem get_of_free (h : t.Sound) (hk : t.Free k) :
    get t k = .error (.service (.notFound k.reference)) := by
  rw [get, Table.require_of_free h hk]
  rfl

/-- A listing succeeds: each row that is listed holds an entry, which can be loaded and has details. -/
theorem exists_list_eq (h : t.Sound) (space : Option String) (state : Option State) :
    ∃ ds, list t space state = .ok ds := by
  obtain ⟨loaded, hselect, hloaded⟩ : ∃ loaded, t.select space state = .ok loaded ∧
      ∀ l ∈ loaded, ∃ d, l.details = .ok d := by
    refine exists_mapM_eq_ok fun r hr => ?_
    rw [Table.mem_sorted] at hr
    obtain ⟨e, he⟩ := h.rows r (List.mem_filter.mp hr).1
    rw [he]
    exact ⟨e.loaded r.id, e.load_row r.id, e.details, e.details_loaded r.id⟩
  obtain ⟨ds, hds, -⟩ := exists_mapM_eq_ok (P := fun _ => True) fun l hl =>
    (hloaded l hl).imp fun _ hd => ⟨hd, trivial⟩
  refine ⟨ds, ?_⟩
  rw [list, hselect]
  exact hds

/-- A host type is judged against the details of the entry. -/
theorem validate_of_holds (h : t.Sound) (he : t.Holds id e) (pending : List Table.Draft)
    (fields : List HostField) (failFast : Bool) :
    validate ⟨t, pending⟩ e.key fields failFast =
      ⟨.ok (Conformance.validate e.details fields failFast).1, t,
        (Conformance.validate e.details fields failFast).2, pending⟩ := by
  rw [validate, get_of_holds h he]

theorem validate_of_free (h : t.Sound) (hk : t.Free k) (pending : List Table.Draft)
    (fields : List HostField) (failFast : Bool) :
    validate ⟨t, pending⟩ k fields failFast =
      reading ⟨t, pending⟩ (.error (.service (.notFound k.reference))) := by
  rw [validate, get_of_free h hk]

/-! ## Registering -/

theorem create_of_holds (h : t.Sound) (he : t.Holds id e) (hkey : e.key = r.key)
    (pending : List Table.Draft) (now : Time.Reading) (between : Interlude) :
    create ⟨t, pending⟩ now between r = reading ⟨t, pending⟩ (.error (taken r.key)) := by
  simp only [create, ← hkey, Table.find?_of_holds h he]

/-- A free key is registered. -/
theorem create_of_free (h : t.Sound) (hk : t.Free r.key) :
    create ⟨t, []⟩ (some now) .none r =
      ⟨.ok (Table.Draft.entry ⟨r, now⟩).details, t.add ⟨r, now⟩, [registeredRecord r], []⟩ := by
  have hget := get_of_holds (h.add hk) (Table.holds_new t ⟨r, now⟩)
  rw [Table.Draft.entry_key] at hget
  simp only [create, Table.find?_of_free h hk, Interlude.none, insertNew, List.nil_append,
    Table.insertAll?, Table.insert?_of_free (d := ⟨r, now⟩) h hk, Option.bind_some, hget]

/-! ## Deciding -/

theorem decide_of_free (h : t.Sound) (hk : t.Free k) (pending : List Table.Draft)
    (now : Time.Reading) (between : Interlude) :
    decide ⟨t, pending⟩ now between k d updatedBy =
      reading ⟨t, pending⟩ (.error (.service (.notFound k.reference))) := by
  simp only [decide, Table.require_of_free h hk]

/-- An open entry is ruled on. -/
theorem decide_of_open (h : t.Sound) (he : t.Holds id e) (hopen : e.ruling = none) :
    decide ⟨t, []⟩ (some now) .none e.key d updatedBy =
      ⟨.ok (e.rule (.made d updatedBy now)).details, t.ruled id d updatedBy now,
        [movedRecord e.key d updatedBy], []⟩ := by
  have hruled := Table.holds_rule h he hopen d updatedBy now
  simp only [decide, Table.require_of_holds h he, Interlude.none, decideOn, Entry.loaded_row,
    Entry.row_id, Table.decide?_of_open he hopen, Table.insertAll?,
    Table.rowById?_of_holds h.ruled hruled, Entry.load_row, Entry.details_loaded, List.nil_append]

/-- An entry with a ruling is left as it is. -/
theorem decide_of_closed (h : t.Sound) (he : t.Holds id e) (hclosed : e.ruling ≠ none) :
    decide ⟨t, []⟩ (some now) .none e.key d updatedBy =
      reading ⟨t, []⟩
        (.error (.service (.invalidTransition e.key.reference e.state.word d.state.word))) := by
  simp only [decide, Table.require_of_holds h he, Interlude.none, decideOn, Entry.loaded_row,
    Entry.row_id, Table.decide?_of_closed h he hclosed, closed, Entry.loaded_state, reading,
    List.append_nil]

end Registry

end SchemaRegistry
