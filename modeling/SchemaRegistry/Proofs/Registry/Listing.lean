import Mathlib.Data.List.Sort
import Mathlib.Data.Prod.Lex
import Mathlib.Data.Set.List
import Mathlib.Data.String.Basic
import SchemaRegistry.Proofs.Registry.RowLife

/-!
# Listings

A listing shows each registered schema once, in the order of their keys. Its rows are selected first and sorted
then, while a single schema is found by its key. `lists_exactly` says that the two ways of reading agree on every
table that the registry can reach.

Rows are put in order by insertion, which leaves rows with equal keys side by side. As no two rows share a key,
the order is strict. So there is only one way to put some rows in order, and it makes no difference whether they
are selected before or after.
-/

namespace SchemaRegistry

/-! ## The order of keys -/

/-- Three texts as they are compared: the first that differs decides, by code points. -/
abbrev Place := String ×ₗ String ×ₗ String

/-- The place of a key among others: by its namespace, then by its name, then by its version. -/
def Key.place (k : Key) : Place := toLex (k.space.text, toLex (k.name.text, k.version.text))

/-- The place of a row is that of its key. -/
def Row.place (r : Row) : Place := toLex (r.space, toLex (r.name, r.version))

/-- Places strictly increase along the list. -/
def Increasing {α : Type} (place : α → Place) (l : List α) : Prop :=
  l.Pairwise fun a b => place a < place b

/-- There is only one way to put things in strict order. -/
theorem Increasing.eq_of_mem_iff {α : Type} {place : α → Place} {l l' : List α} (h : Increasing place l)
    (h' : Increasing place l') (hmem : ∀ a, a ∈ l ↔ a ∈ l') : l = l' := by
  have : Std.Irrefl fun a b : α => place a < place b := ⟨fun a => lt_irrefl (place a)⟩
  have : Std.Antisymm fun a b : α => place a < place b := ⟨fun _ _ hlt hgt => absurd hgt hlt.not_gt⟩
  exact List.Pairwise.eq_of_mem_iff h h' hmem

namespace Table

variable {t : Table} {rows : List Row} {r r' : Row}

theorem precedes_iff : precedes r.keyParts r'.keyParts ↔ r.place < r'.place := by
  simp only [precedes, Row.keyParts, Row.place, Prod.Lex.toLex_lt_toLex, Bool.or_eq_true,
    Bool.and_eq_true, beq_iff_eq]
  exact or_congr decide_eq_true_iff
    (and_congr_right' (or_congr decide_eq_true_iff (and_congr_right' decide_eq_true_iff)))

/-! ## Sorted rows -/

theorem perm_insertByKey (r : Row) (rows : List Row) : (insertByKey r rows).Perm (r :: rows) := by
  induction rows with
  | nil => exact .refl _
  | cons head rest ih =>
    rw [insertByKey]
    split
    · exact .refl _
    · exact (ih.cons head).trans (.swap r head rest)

/-- Sorting neither drops nor repeats a row. -/
theorem perm_sorted (rows : List Row) : (sorted rows).Perm rows := by
  induction rows with
  | nil => exact .refl _
  | cons head rest ih => exact (perm_insertByKey head _).trans (ih.cons head)

/-- A row with a place of its own is put where the order stays strict. -/
theorem increasing_insertByKey (h : Increasing Row.place rows) (hnew : ∀ other ∈ rows, other.place ≠ r.place) :
    Increasing Row.place (insertByKey r rows) := by
  induction rows with
  | nil => exact List.pairwise_singleton _ r
  | cons head rest ih =>
    obtain ⟨hhead, hrest⟩ := List.pairwise_cons.mp h
    rw [insertByKey]
    split
    case isTrue hprecedes =>
      have hbefore := precedes_iff.mp hprecedes
      refine List.pairwise_cons.mpr ⟨fun other hother => ?_, h⟩
      rcases List.mem_cons.mp hother with rfl | hother
      · exact hbefore
      · exact hbefore.trans (hhead other hother)
    case isFalse hprecedes =>
      have hafter : head.place < r.place :=
        lt_of_le_of_ne (not_lt.mp (mt precedes_iff.mpr hprecedes)) (hnew head (by simp))
      have hinserted := ih hrest fun other hother => hnew other (by simp [hother])
      refine List.pairwise_cons.mpr ⟨fun other hother => ?_, hinserted⟩
      rcases List.mem_cons.mp ((perm_insertByKey r rest).mem_iff.mp hother) with rfl | hother
      · exact hafter
      · exact hhead other hother

theorem increasing_sorted (h : (rows.map Row.place).Nodup) : Increasing Row.place (sorted rows) := by
  induction rows with
  | nil => exact .nil
  | cons head rest ih =>
    obtain ⟨hhead, hrest⟩ := List.nodup_cons.mp h
    refine increasing_insertByKey (ih hrest) fun other hother hsame => hhead ?_
    rw [← hsame]
    exact List.mem_map_of_mem (mem_sorted.mp hother)

/-- Sorting the rows that are selected is selecting among the sorted rows. -/
theorem sorted_filter (h : (rows.map Row.place).Nodup) (p : Row → Bool) :
    sorted (rows.filter p) = (sorted rows).filter p := by
  have hselected : ((rows.filter p).map Row.place).Nodup := h.sublist (List.filter_sublist.map _)
  refine (increasing_sorted hselected).eq_of_mem_iff ((increasing_sorted h).sublist List.filter_sublist) ?_
  simp [mem_sorted]

/-- No two rows of a sound table have the same place. -/
theorem Sound.places (h : t.Sound) : (t.rows.map Row.place).Nodup := by
  have hplace : Row.place = (fun parts => toLex (parts.1, toLex parts.2)) ∘ Row.keyParts := rfl
  rw [hplace, ← List.map_map]
  refine h.keys.map fun parts parts' hsame => ?_
  simpa [Prod.ext_iff] using hsame

/-! ## Rows that hold entries -/

/-- An entry with the number under which it stands. -/
abbrev Held := Int × Entry

/-- The row that holds an entry under its number. -/
def Held.row (held : Held) : Row := held.2.row held.1

/-- The details of the entry. -/
def Held.details (held : Held) : Details := held.2.details

theorem Held.row_injective : Function.Injective Held.row :=
  fun _ _ h => Prod.ext_iff.mpr (Entry.row_injective h)

/-- Rows of a sound table hold entries. -/
theorem Sound.exists_held (h : t.Sound) (hrows : ∀ r ∈ rows, r ∈ t.rows) :
    ∃ held : List Held, held.map Held.row = rows := by
  rw [← Set.mem_range, Set.range_list_map]
  intro r hr
  obtain ⟨e, he⟩ := h.rows r (hrows r hr)
  exact ⟨(r.id, e), he.symm⟩

/-- The entries of the sorted rows are those of the table. -/
theorem mem_held_iff {held : List Held} (hheld : held.map Held.row = sorted t.rows) {id : Int} {e : Entry} :
    (id, e) ∈ held ↔ t.Holds id e := by
  rw [← List.mem_map_of_injective Held.row_injective, hheld, mem_sorted]
  rfl

end Table

/-! ## What is listed -/

/-- The schema is one of a namespace, if one is given that is not empty, and in a state, if one is given. -/
def Details.Meets (space : Option String) (state : Option State) (d : Details) : Prop :=
  (∀ wanted ∈ space, wanted ≠ "" → d.key.space.text = wanted) ∧ ∀ wanted ∈ state, d.state = wanted

instance (space : Option String) (state : Option State) (d : Details) : Decidable (d.Meets space state) :=
  inferInstanceAs (Decidable
    ((∀ wanted ∈ space, wanted ≠ "" → d.key.space.text = wanted) ∧ ∀ wanted ∈ state, d.state = wanted))

/-- A row is selected just if the details of its entry meet what is asked for. -/
theorem Entry.selects_row (space : Option String) (state : Option State) (id : Int) (e : Entry) :
    Table.selects space state (e.row id) = decide (e.details.Meets space state) := by
  rw [Bool.eq_iff_iff, decide_eq_true_iff]
  cases space <;> cases state <;>
    simp [Table.selects, Details.Meets, Entry.row, Entry.details, or_iff_not_imp_left]

/-- The details of a row, read from its columns. -/
def Row.details (r : Row) : Except Failure Details := r.load.bind LoadedRow.details

namespace Registry

/-- The schemas of a table as they are listed. -/
structure Listing (t : Table) (ds : List Details) : Prop where
  listed : list t none none = .ok ds
  /-- The details of each row are listed once. -/
  rows : ∃ all, t.rows.mapM Row.details = .ok all ∧ ds.Perm all
  increasing : Increasing (fun d => d.key.place) ds
  /-- What is listed of a namespace and a state are the schemas in them, in the same order. -/
  filtered (space : Option String) (state : Option State) :
    list t space state = .ok (ds.filter fun d => d.Meets space state)
  /-- A key leads to the one schema that has it. -/
  found (k : Key) (d : Details) : get t k = .ok d ↔ ds.filter (·.hasKey k) = [d]

variable {t : Table} {held : List Table.Held}

open Table

/-- Rows that hold entries are read one by one. -/
theorem list_of_held {space : Option String} {state : Option State}
    (h : sorted (t.rows.filter (selects space state)) = held.map Held.row) :
    list t space state = .ok (held.map Held.details) := by
  have hload : (held.map Held.row).mapM Row.load = .ok (held.map fun held => held.2.loaded held.1) := by
    simp only [List.mapM_map, Function.comp_def, Held.row, Entry.load_row]
    exact List.mapM_pure
  have hdetails : (held.map fun held => held.2.loaded held.1).mapM LoadedRow.details =
      .ok (held.map Held.details) := by
    simp only [List.mapM_map, Function.comp_def, Entry.details_loaded]
    exact List.mapM_pure
  rw [list, select, h, hload]
  exact hdetails

theorem list_eq_filter (h : t.Sound) (hheld : held.map Held.row = sorted t.rows) (space : Option String)
    (state : Option State) :
    list t space state = .ok ((held.map Held.details).filter fun d => d.Meets space state) := by
  have hselected : sorted (t.rows.filter (selects space state)) =
      (held.filter fun held => held.details.Meets space state).map Held.row := by
    rw [sorted_filter h.places, ← hheld, List.filter_map]
    exact congrArg _ (List.filter_congr fun held _ => held.2.selects_row space state held.1)
  rw [list_of_held hselected, List.filter_map]
  rfl

/-- The details of each row are listed once. -/
theorem exists_details_of_rows (h : t.Sound) (hheld : held.map Held.row = sorted t.rows) :
    ∃ all, t.rows.mapM Row.details = .ok all ∧ (held.map Held.details).Perm all := by
  obtain ⟨stored, hstored⟩ : ∃ stored : List Held, stored.map Held.row = t.rows := h.exists_held fun _ hr => hr
  refine ⟨stored.map Held.details, ?_, ?_⟩
  · have hdetails (held : Held) : held.row.details = .ok held.details := by
      rw [Row.details, Held.row, Entry.load_row]
      exact held.2.details_loaded held.1
    rw [← hstored]
    simp only [List.mapM_map, Function.comp_def, hdetails]
    exact List.mapM_pure
  · have hperm := perm_sorted t.rows
    rw [← hheld, ← hstored, List.map_perm_map_iff Held.row_injective] at hperm
    exact hperm.map _

theorem increasing_details (h : t.Sound) (hheld : held.map Held.row = sorted t.rows) :
    Increasing (fun d => d.key.place) (held.map Held.details) := by
  have hsorted := increasing_sorted h.places
  rw [← hheld, Increasing, List.pairwise_map] at hsorted
  rw [Increasing, List.pairwise_map]
  exact hsorted

/-- Reading by a key is picking from the list what has the key. -/
theorem get_eq_ok_iff (h : t.Sound) (hheld : held.map Held.row = sorted t.rows) (k : Key) (d : Details) :
    get t k = .ok d ↔ (held.map Held.details).filter (·.hasKey k) = [d] := by
  have hmem (d : Details) :
      d ∈ (held.map Held.details).filter (·.hasKey k) ↔
        ∃ id e, t.Holds id e ∧ e.details = d ∧ e.key = k := by
    rw [List.mem_filter, List.mem_map]
    constructor
    · rintro ⟨⟨⟨id, e⟩, hmem, rfl⟩, hkey⟩
      exact ⟨id, e, (mem_held_iff hheld).mp hmem, rfl, beq_iff_eq.mp hkey⟩
    · rintro ⟨id, e, he, rfl, rfl⟩
      exact ⟨⟨(id, e), (mem_held_iff hheld).mpr he, rfl⟩, beq_self_eq_true e.key⟩
  rcases t.free_or_holds k with hfree | ⟨id, e, he, rfl⟩
  · have hnone : (held.map Held.details).filter (·.hasKey k) = [] := by
      refine List.eq_nil_iff_forall_not_mem.mpr fun d hd => ?_
      obtain ⟨id, e, he, -, hkey⟩ := (hmem d).mp hd
      exact hfree id e he hkey
    rw [get_of_free h hfree, hnone]
    simp
  · -- The list has no other schema with the key, since no two rows share a place.
    have hone : (held.map Held.details).filter (·.hasKey e.key) = [e.details] := by
      refine ((increasing_details h hheld).sublist List.filter_sublist).eq_of_mem_iff
        (List.pairwise_singleton _ _) fun d => ?_
      rw [hmem, List.mem_singleton]
      constructor
      · rintro ⟨id', e', he', rfl, hkey⟩
        rw [(h.eq_of_key he' he hkey).2]
      · rintro rfl
        exact ⟨id, e, he, rfl, rfl⟩
    rw [get_of_holds h he, hone]
    simp

/-- **A listing is exact.** Whatever proper commands the registry has been given, in any sessions, it lists each
of its schemas once and in strict order, those of a namespace and a state in the same order, and it finds the
schema of a key just where the list has it. -/
theorem lists_exactly {turns : List Turn} (hproper : ∀ turn ∈ turns, turn.command.Proper)
    (sessions : Sessions) : ∃ ds, Listing (Turn.leave turns sessions .empty).2 ds := by
  have hsound := Sound.empty.evolves (Turn.leave_evolves hproper sessions .empty)
  obtain ⟨held, hheld⟩ := hsound.exists_held fun r hr => mem_sorted.mp hr
  refine ⟨held.map Held.details, ?_, exists_details_of_rows hsound hheld, increasing_details hsound hheld,
    list_eq_filter hsound hheld, get_eq_ok_iff hsound hheld⟩
  rw [list_eq_filter hsound hheld]
  simp [Details.Meets]

/-- Two versions of a schema are registered, the later one first, and then one of another namespace, which is
approved. -/
def listedTurns : List Turn :=
  let key (space version : String) : Json := .obj (Key.fieldsOf space "client" version)
  let register (space version : String) : Turn :=
    ⟨"a", some Time.sessionStart,
      .create
        (.obj
          [("schema_key", key space version),
           ("attributes", .arr [.obj [("type", .str "LONG"), ("name", .str "id")]]),
           ("created_by", .str "ada")]) none⟩
  [register "pay" "v2", register "pay" "v1", register "Pay" "v3",
   ⟨"b", some Time.sessionStart, .decide .approve (key "Pay" "v3") "ben" none⟩]

/-- The versions are listed in order, and behind a namespace that begins with a capital. -/
theorem lists_exactly_versions :
    (∀ turn ∈ listedTurns, turn.command.Proper) ∧
      ∃ ds, Listing (Turn.leave listedTurns [] .empty).2 ds ∧
        ds.map summary =
          ["Pay:client:v3 APPROVED", "pay:client:v1 CREATED", "pay:client:v2 CREATED"] := by
  have hproper : ∀ turn ∈ listedTurns, turn.command.Proper := by simp [listedTurns, Command.Proper]
  obtain ⟨ds, hds⟩ := lists_exactly hproper []
  have hlisted : ((list (Turn.leave listedTurns [] .empty).2 none none).toOption.getD []).map summary =
      ["Pay:client:v3 APPROVED", "pay:client:v1 CREATED", "pay:client:v2 CREATED"] := by decide +kernel
  rw [hds.listed] at hlisted
  exact ⟨hproper, ds, hds, hlisted⟩

end Registry

end SchemaRegistry
