import SchemaRegistry.Proofs.Conformance.Logging
import SchemaRegistry.Proofs.Registry.AuditTrail
import SchemaRegistry.Proofs.Registry.Timestamps
import SchemaRegistry.Proofs.Text.Joined

/-!
# What references tell of rows

Failures and records name schemas by reference. Each names a key that the command is about, or one that a rival between
its steps is about; but the reference does not always tell which, as keys that have colons in their parts can share one.
A reference with `n` colons belongs to at most as many rows of a table as there are pairs among `n`. Two colons make a
single pair, so what is said of a key without colons in its parts is said of one row.
-/

namespace SchemaRegistry

open Text

/-! ## Keys -/

namespace Key

variable {k k' : Key}

/-- The texts of the parts of a key. -/
def parts (k : Key) : String × String × String := (k.space.text, k.name.text, k.version.text)

/-- The numbers of colons tell keys with one reference apart. -/
theorem eq_of_reference_eq (h : k.reference = k'.reference)
    (hspace : colons k.space.text = colons k'.space.text) (hname : colons k.name.text = colons k'.name.text) :
    k = k' := by
  have hparts : k.parts = k'.parts := joined_inj h hspace hname
  obtain ⟨hspace, hrest⟩ := Prod.mk.inj hparts
  obtain ⟨hname, hversion⟩ := Prod.mk.inj hrest
  exact ext_text hspace hname hversion

/-- A reference with no colons but those that join belongs to a single key. -/
theorem eq_of_colons_eq_two (h : k.reference = k'.reference) (htwo : colons k.reference = 2) : k = k' := by
  have hk : colons k.reference = _ := colons_joined k.parts
  have hk' : colons k'.reference = _ := colons_joined k'.parts
  rw [← h] at hk'
  simp only [parts] at hk hk'
  exact eq_of_reference_eq h (by omega) (by omega)

end Key

/-! ## Rows -/

/-- At most as many rows have a reference as it has pairs of colons. -/
theorem Table.Sound.length_filter_reference_le {t : Table} (h : t.Sound) (reference : String) :
    (t.rows.filter fun r => r.reference == reference).length ≤ (colons reference).choose 2 := by
  have hways := h.keys.sublist ((List.filter_sublist (p := fun r => r.reference == reference)).map Row.keyParts)
  rw [← List.length_map Row.keyParts]
  refine length_le_of_joined hways fun parts hparts => ?_
  obtain ⟨r, hr, rfl⟩ := List.mem_map.mp hparts
  exact beq_iff_eq.mp (List.mem_filter.mp hr).2

/-! ## What is named -/

/-- The reference that a failure names, if it names one. -/
def Failure.reference? : Failure → Option String
  | service (.notFound reference) => some reference
  | service (.alreadyExists reference) => some reference
  | service (.invalidTransition reference _ _) => some reference
  | _ => none

/-- A record tells something of the schema with a reference: that it was registered, that it was decided on, or that a
host type does not conform to it. -/
inductive LogRecord.About : LogRecord → String → Prop where
  | registered (reference createdBy : String) :
      About ⟨.info, .registry, "Registered schema " ++ reference ++ " by " ++ createdBy⟩ reference
  | moved (reference state updatedBy : String) :
      About ⟨.info, .registry, "Schema " ++ reference ++ " moved CREATED -> " ++ state ++ " by " ++ updatedBy⟩
        reference
  | judged (severity : Severity) (reference text : String) :
      About ⟨severity, .validator, "Schema " ++ reference ++ " [Validation Failed] " ++ text⟩ reference

/-- The failure in which a computation ends, if it does. -/
def failureOf {α : Type} : Except Failure α → Option Failure
  | .ok _ => none
  | .error f => some f

/-- A failure and records name no schemas but those of the keys that are concerned. -/
structure NamesOnly (concerned : Key → Prop) (failure : Option Failure) (records : List LogRecord) : Prop where
  failure : ∀ f reference, failure = some f → f.reference? = some reference →
    ∃ k, concerned k ∧ k.reference = reference
  records : ∀ record ∈ records, ∃ k, concerned k ∧ record.About k.reference

/-- What an outcome tells beside its answer names no schemas but those of the keys that are concerned. -/
def Outcome.NamesOnly {α : Type} (o : Outcome α) (concerned : Key → Prop) : Prop :=
  SchemaRegistry.NamesOnly concerned (failureOf o.answer) o.logs

namespace NamesOnly

variable {concerned : Key → Prop} {f : Failure} {failure failure' : Option Failure}
  {records records' : List LogRecord} {record : LogRecord} {k : Key}

theorem nothing : NamesOnly concerned none [] := ⟨nofun, nofun⟩

theorem silent (h : f.reference? = none) : NamesOnly concerned (some f) [] where
  failure := by
    intro _ reference hf hreference
    obtain rfl := Option.some.inj hf
    cases h.symm.trans hreference
  records := nofun

theorem key (hk : concerned k) (h : f.reference? = some k.reference) : NamesOnly concerned (some f) [] where
  failure := by
    intro _ reference hf hreference
    obtain rfl := Option.some.inj hf
    exact ⟨k, hk, Option.some.inj (h.symm.trans hreference)⟩
  records := nofun

theorem single (hk : concerned k) (h : record.About k.reference) : NamesOnly concerned none [record] where
  failure := nofun
  records := by
    intro other hother
    obtain rfl := List.mem_singleton.mp hother
    exact ⟨k, hk, h⟩

/-- Records that came before do not matter to the failure. -/
theorem append (h : NamesOnly concerned failure records) (h' : NamesOnly concerned failure' records') :
    NamesOnly concerned failure' (records ++ records') where
  failure := h'.failure
  records := by
    intro record hrecord
    rcases List.mem_append.mp hrecord with hrecord | hrecord
    · exact h.records record hrecord
    · exact h'.records record hrecord

theorem mono {concerned' : Key → Prop} (h : NamesOnly concerned failure records)
    (himp : ∀ k, concerned k → concerned' k) : NamesOnly concerned' failure records where
  failure f reference hf hreference := (h.failure f reference hf hreference).imp fun k => .imp_left (himp k)
  records record hrecord := (h.records record hrecord).imp fun k => .imp_left (himp k)

end NamesOnly

/-! ## Operations -/

namespace Registry

open Table

variable {t : Table} {s : Stage} {between : Interlude} {concerned : Key → Prop} {k : Key} {r : Registration}

theorem namesOnly_require (h : t.Sound) (hk : concerned k) : NamesOnly concerned (failureOf (t.require k)) [] := by
  rcases t.free_or_holds k with hfree | ⟨id, e, he, rfl⟩
  · rw [require_of_free h hfree]
    exact .key hk rfl
  · rw [require_of_holds h he]
    exact .nothing

theorem namesOnly_get (h : t.Sound) (hk : concerned k) : NamesOnly concerned (failureOf (get t k)) [] := by
  rcases t.free_or_holds k with hfree | ⟨id, e, he, rfl⟩
  · rw [get_of_free h hfree]
    exact .key hk rfl
  · rw [get_of_holds h he]
    exact .nothing

theorem namesOnly_storedAttributes (h : t.Sound) (hk : concerned k) :
    NamesOnly concerned (failureOf (storedAttributes t k)) [] := by
  rw [storedAttributes]
  have hrequire := namesOnly_require h hk
  cases hrow : t.require k with
  | error f =>
    rw [hrow] at hrequire
    exact hrequire
  | ok row => exact .nothing

theorem namesOnly_list (h : t.Sound) (space : Option String) (state : Option State) :
    NamesOnly concerned (failureOf (list t space state)) [] := by
  obtain ⟨ds, hds⟩ := exists_list_eq h space state
  rw [hds]
  exact .nothing

/-- The records of a verdict are about the schema by which it is given. -/
theorem namesOnly_judged (schema : Details) (fields : List HostField) (failFast : Bool) (hk : concerned schema.key) :
    NamesOnly concerned none (Conformance.validate schema fields failFast).2 := by
  have hlogged := Conformance.logged_validate schema fields failFast
  generalize Conformance.validate schema fields failFast = judged at hlogged ⊢
  obtain ⟨verdict, records⟩ := judged
  cases hlogged with
  | passed => exact .nothing
  | names => exact .single hk (.judged ..)
  | @categories ds =>
    have habout := LogRecord.About.judged .warning schema.key.reference
      (toString ds.length ++ " incompatible attribute(s): " ++ "; ".intercalate (ds.map Diagnostic.message))
    rw [← String.append_assoc, ← String.append_assoc] at habout
    exact .single hk habout

theorem namesOnly_validate (h : s.table.Sound) (hk : concerned k) (fields : List HostField) (failFast : Bool) :
    (validate s k fields failFast).NamesOnly concerned := by
  rcases s.table.free_or_holds k with hfree | ⟨id, e, he, rfl⟩
  · rw [validate_of_free h hfree]
    exact .key hk rfl
  · rw [validate_of_holds h he]
    exact namesOnly_judged e.details fields failFast hk

/-- The second step of a registration names its key. -/
theorem namesOnly_insertNew (h : t.Sound) (hk : concerned r.key) (drafts : List Draft) :
    (insertNew t drafts r).NamesOnly concerned := by
  unfold insertNew
  split
  case h_1 => exact .key hk rfl
  case h_2 t hinsert =>
    have hget := namesOnly_get (h.evolves (.insertAll hinsert)) hk
    exact ⟨hget.failure, (NamesOnly.single hk (.registered ..)).records⟩

/-- A registration names its key and what is named between its steps, whatever happens there. -/
theorem namesOnly_create (h : s.table.Sound) (hbetween : s.table.Evolves (between s.table).table)
    (hrival : NamesOnly concerned (between s.table).failure (between s.table).logs) (hk : concerned r.key)
    (now : Time.Reading) : (create s now between r).NamesOnly concerned := by
  rcases s.table.free_or_holds r.key with hfree | ⟨id, e, he, hkey⟩
  · unfold create
    rw [find?_of_free h hfree]
    cases now with
    | none => exact .silent rfl
    | some time =>
      dsimp only
      cases hfailure : (between s.table).failure with
      | some f =>
        rw [hfailure] at hrival
        exact hrival
      | none => exact hrival.append (namesOnly_insertNew (h.evolves hbetween) hk _)
  · rw [create_of_holds h he hkey]
    exact .key hk rfl

/-- A decision that comes too late names the key, in whatever state the schema is. -/
theorem namesOnly_closed (h : t.Sound) (hk : concerned k) (d : Decision) :
    NamesOnly concerned (some (closed t k d)) [] := by
  rcases t.free_or_holds k with hfree | ⟨id, e, he, rfl⟩
  · rw [closed, require_of_free h hfree]
    exact .key hk rfl
  · rw [closed, require_of_holds h he]
    exact .key hk rfl

theorem namesOnly_decideOn (h : s.table.Sound) (hk : concerned k) (now : Time.DateTime) (id : Int) (d : Decision)
    (updatedBy : String) : (decideOn s now k id d updatedBy).NamesOnly concerned := by
  unfold decideOn
  split
  case h_1 => exact namesOnly_closed h hk d
  case h_2 decided hdecide =>
    split
    case h_1 => exact .silent rfl
    case h_2 t hinsert =>
      have hevolves : s.table.Evolves t := (Evolves.refl.decide id d updatedBy now hdecide).trans (.insertAll hinsert)
      split
      case h_1 => exact .silent rfl
      case h_2 row hrow =>
        -- The row holds an entry, so that it can be read.
        obtain ⟨e, he⟩ := (h.evolves hevolves).rows row (List.mem_of_find?_eq_some hrow)
        rw [he, Entry.load_row]
        dsimp only
        rw [Entry.details_loaded]
        exact .single hk (.moved ..)

theorem namesOnly_decide (h : s.table.Sound) (hbetween : s.table.Evolves (between s.table).table)
    (hrival : NamesOnly concerned (between s.table).failure (between s.table).logs) (hk : concerned k)
    (now : Time.Reading) (d : Decision) (updatedBy : String) :
    (decide s now between k d updatedBy).NamesOnly concerned := by
  unfold decide
  rcases s.table.free_or_holds k with hfree | ⟨id, e, he, rfl⟩
  · rw [require_of_free h hfree]
    exact .key hk rfl
  · rw [require_of_holds h he]
    cases now with
    | none => exact .silent rfl
    | some time =>
      dsimp only
      cases hfailure : (between s.table).failure with
      | some f =>
        rw [hfailure] at hrival
        exact hrival
      | none => exact hrival.append (namesOnly_decideOn (h.evolves hbetween) hk ..)

end Registry

/-! ## Commands -/

/-- The command is about the schema with a key, or a rival that acts between its steps is. -/
inductive Command.Concerns : Command → Key → Prop where
  | create {request : Json} {rival : Option Command} {r : Registration}
      (hrequest : Registration.check request = .accepted r) : Concerns (create request rival) r.key
  | decide {d : Decision} {key : Json} {k : Key} {updatedBy : String} {rival : Option Command}
      (hkey : Key.check key = .accepted k) : Concerns (decide d key updatedBy rival) k
  | get {key : Json} {k : Key} (hkey : Key.check key = .accepted k) : Concerns (get key) k
  | validate {key : Json} {k : Key} {fields : List Json} {failFast : Bool}
      (hkey : Key.check key = .accepted k) : Concerns (validate key fields failFast) k
  | storedAttributes {key : Json} {k : Key} (hkey : Key.check key = .accepted k) :
      Concerns (storedAttributes key) k
  | rivalOfCreate {request : Json} {rival : Command} {k : Key} (hrival : rival.Concerns k) :
      Concerns (create request (some rival)) k
  | rivalOfDecide {d : Decision} {key : Json} {updatedBy : String} {rival : Command} {k : Key}
      (hrival : rival.Concerns k) : Concerns (decide d key updatedBy (some rival)) k

namespace Command

variable {concerned : Key → Prop} {s : Stage}

/-- A refusal names no schema. -/
theorem reference?_of_run {α : Type} {x : Checked α} {f : Failure} (h : x.run = .error f) : f.reference? = none := by
  cases x with
  | accepted a => cases h
  | refused why =>
    cases h
    rfl

theorem reference?_of_mapM {α β : Type} {g : α → Except Failure β}
    (hg : ∀ a f, g a = .error f → f.reference? = none) {l : List α} {f : Failure} (h : l.mapM g = .error f) :
    f.reference? = none := by
  induction l with
  | nil => cases h
  | cons a l ih =>
    rw [List.mapM_cons] at h
    cases ha : g a with
    | error f' =>
      rw [ha] at h
      cases h
      exact hg a f ha
    | ok b =>
      rw [ha] at h
      cases hl : l.mapM g with
      | error f' =>
        rw [hl] at h
        cases h
        exact ih hl
      | ok bs =>
        rw [hl] at h
        cases h

theorem reference?_of_stateOf? {value : Option Json} {f : Failure} (h : stateOf? value = .error f) :
    f.reference? = none := by
  cases value with
  | none => cases h
  | some value =>
    unfold stateOf? State.find Choice.find at h
    dsimp only at h
    split at h
    case h_1 => cases h
    case h_2 =>
      cases h
      rfl

/-- A command that is checked first names what it names once it is taken. -/
theorem namesOnly_checking {α : Type} {x : Except Failure α} {next : α → Outcome Reply}
    (hx : ∀ f, x = .error f → f.reference? = none) (hnext : ∀ a, x = .ok a → (next a).NamesOnly concerned) :
    (checking s x next).NamesOnly concerned := by
  unfold checking
  split
  case h_1 a => exact hnext a rfl
  case h_2 f => exact .silent (hx f rfl)

/-- The refusal of what a client gives names no schema. -/
theorem namesOnly_checked {α : Type} {x : Checked α} {next : α → Outcome Reply}
    (hnext : ∀ a, x = .accepted a → (next a).NamesOnly concerned) : (checking s x.run next).NamesOnly concerned :=
  namesOnly_checking (fun _ => reference?_of_run) fun a ha => hnext a (Checked.eq_accepted_of_run ha)

theorem namesOnly_reply {α : Type} {o : Outcome α} (h : o.NamesOnly concerned) (f : α → Reply) :
    (o.reply f).NamesOnly concerned := by
  obtain ⟨answer, t, logs, pending⟩ := o
  cases answer <;> exact h

theorem namesOnly_reading {α : Type} {answer : Except Failure α} (h : NamesOnly concerned (failureOf answer) [])
    (f : α → Reply) : (Registry.reading s (answer.map f)).NamesOnly concerned := by
  cases answer <;> exact h

/-- A rival names what it names as a command of its own. -/
theorem namesOnly_interlude {rival : Command} {now : Time.Reading} {t : Table}
    (h : (rival.run now ⟨t, []⟩).NamesOnly rival.Concerns) (himp : ∀ k, rival.Concerns k → concerned k) :
    NamesOnly concerned (run.interlude now (some rival) t).failure (run.interlude now (some rival) t).logs := by
  have hfailure : (run.interlude now (some rival) t).failure = failureOf (rival.run now ⟨t, []⟩).answer := by
    simp only [run.interlude]
    cases (rival.run now ⟨t, []⟩).answer <;> rfl
  rw [hfailure]
  exact h.mono himp

/-- A proper command names no schemas but those that it or a rival of it is about. -/
theorem run_namesOnly (now : Time.Reading) : ∀ (c : Command), c.Proper → ∀ s : Stage, s.table.Sound →
    (c.run now s).NamesOnly c.Concerns
  | create _ none, _, s, hsound => by
    rw [run]
    refine namesOnly_checked fun r hr => namesOnly_reply ?_ _
    exact Registry.namesOnly_create hsound .refl .nothing (.create hr) now
  | create _ (some rival), h, s, hsound => by
    have hrival := rival.run_namesOnly now h ⟨s.table, []⟩ hsound
    rw [run]
    refine namesOnly_checked fun r hr => namesOnly_reply ?_ _
    exact Registry.namesOnly_create hsound (rival.run_evolves now h ⟨s.table, []⟩)
      (namesOnly_interlude hrival fun _ => .rivalOfCreate) (.create hr) now
  | decide d _ updatedBy none, _, s, hsound => by
    rw [run]
    refine namesOnly_checked fun k hk => namesOnly_reply ?_ _
    exact Registry.namesOnly_decide hsound .refl .nothing (.decide hk) now d updatedBy
  | decide d _ updatedBy (some rival), h, s, hsound => by
    have hrival := rival.run_namesOnly now h ⟨s.table, []⟩ hsound
    rw [run]
    refine namesOnly_checked fun k hk => namesOnly_reply ?_ _
    exact Registry.namesOnly_decide hsound (rival.run_evolves now h ⟨s.table, []⟩)
      (namesOnly_interlude hrival fun _ => .rivalOfDecide) (.decide hk) now d updatedBy
  | get _, _, s, hsound => by
    rw [run]
    refine namesOnly_checked fun k hk => namesOnly_reading ?_ _
    exact Registry.namesOnly_get hsound (.get hk)
  | list .., _, s, hsound => by
    rw [run]
    refine namesOnly_checking (fun _ => reference?_of_stateOf?) fun state _ => namesOnly_reading ?_ _
    exact Registry.namesOnly_list hsound ..
  | summaries, _, s, hsound => by
    rw [run]
    exact namesOnly_reading (Registry.namesOnly_list hsound ..) _
  | validate _ _ failFast, _, s, hsound => by
    rw [run]
    refine namesOnly_checked fun k hk => ?_
    have hfields : ∀ value f, (HostField.check value).run = .error f → f.reference? = none :=
      fun _ _ => reference?_of_run
    refine namesOnly_checking (fun _ => reference?_of_mapM hfields) fun fields _ => namesOnly_reply ?_ _
    exact Registry.namesOnly_validate hsound (.validate hk) fields failFast
  | storedAttributes _, _, s, hsound => by
    rw [run]
    refine namesOnly_checked fun k hk => namesOnly_reading ?_ _
    exact Registry.namesOnly_storedAttributes hsound (.storedAttributes hk)

end Command

/-! ## Runs -/

namespace Turn

/-- **What a reference tells.** Two keys with one reference are the same just if their namespaces have equally many
colons and their names have, and they always are if the reference has but the two that join. In any sessions, and
whatever proper commands came before, a command names no schemas but those that it or a rival of it is about. It leaves
at most as many rows with a reference as this has pairs of colons, so one if it has two. -/
theorem references_identify :
    (∀ k k' : Key, k.reference = k'.reference →
        (k = k' ↔ colons k.space.text = colons k'.space.text ∧ colons k.name.text = colons k'.name.text)) ∧
      (∀ k k' : Key, k.reference = k'.reference → colons k.reference = 2 → k = k') ∧
      ∀ (earlier : List Turn) (turn : Turn) (sessions : Sessions),
        (∀ other ∈ earlier ++ [turn], other.command.Proper) →
          (turn.outcome (leave earlier sessions .empty)).NamesOnly turn.command.Concerns ∧
            ∀ reference, ((leave (earlier ++ [turn]) sessions .empty).2.rows.filter fun r =>
              r.reference == reference).length ≤ (colons reference).choose 2 := by
  refine ⟨fun k k' h => ⟨?_, fun ⟨hspace, hname⟩ => Key.eq_of_reference_eq h hspace hname⟩,
    fun k k' => Key.eq_of_colons_eq_two, fun earlier turn sessions hproper => ⟨?_, fun reference => ?_⟩⟩
  · rintro rfl
    exact ⟨rfl, rfl⟩
  · have hearlier : ∀ other ∈ earlier, other.command.Proper := fun other hother =>
      hproper other (List.mem_append_left _ hother)
    have hturn : turn.command.Proper := hproper turn (by simp)
    have hsound := Table.Sound.empty.evolves (leave_evolves hearlier sessions .empty)
    exact turn.command.run_namesOnly turn.now hturn ⟨_, _⟩ hsound
  · have hsound := Table.Sound.empty.evolves (leave_evolves hproper sessions .empty)
    exact hsound.length_filter_reference_le reference

/-- A key with a colon in its namespace. -/
def spaceColonKey : Key where
  space := ⟨"a:b", by decide, by decide⟩
  name := ⟨"c", by decide, by decide⟩
  version := ⟨"d", by decide, by decide⟩

/-- A key with the same reference and the colon in its name. -/
def nameColonKey : Key where
  space := ⟨"a", by decide, by decide⟩
  name := ⟨"b:c", by decide, by decide⟩
  version := ⟨"d", by decide, by decide⟩

/-- A key with the same reference and the colon in its version. -/
def versionColonKey : Key where
  space := ⟨"a", by decide, by decide⟩
  name := ⟨"b", by decide, by decide⟩
  version := ⟨"c:d", by decide, by decide⟩

/-- A schema of one number is registered under a key. -/
def registeringUnder (k : Key) : Turn where
  session := "a"
  now := some Time.sessionStart
  command := .create
    (.obj
      [("schema_key", k.toJson), ("attributes", .arr [.obj [("type", .str "LONG"), ("name", .str "id")]]),
        ("created_by", .str "ada")])
    none

/-- Two schemas with one reference are registered. -/
def sharingTurns : List Turn := [registeringUnder spaceColonKey, registeringUnder nameColonKey]

/-- A schema with the same reference is read that was not registered. -/
def missingTurn : Turn := ⟨"a", none, .get versionColonKey.toJson⟩

/-- The sample shares its reference with no key. A reference with three colons is said to be missing, which at most
three rows have. -/
theorem references_identify_sample :
    (∀ k, Key.sample.reference = k.reference → Key.sample = k) ∧
      (∀ other ∈ sharingTurns ++ [missingTurn], other.command.Proper) ∧
      (∃ k, missingTurn.command.Concerns k ∧ k.reference = "a:b:c:d") ∧
      ((leave (sharingTurns ++ [missingTurn]) [] .empty).2.rows.filter fun r =>
        r.reference == "a:b:c:d").length ≤ 3 := by
  obtain ⟨-, htwo, hrun⟩ := references_identify
  have hproper : ∀ other ∈ sharingTurns ++ [missingTurn], other.command.Proper := by
    simp [sharingTurns, registeringUnder, missingTurn, Command.Proper]
  have hnamed : (failureOf (missingTurn.outcome (leave sharingTurns [] .empty)).answer).bind Failure.reference? =
      some "a:b:c:d" := by
    decide +kernel
  obtain ⟨f, hfailure, hreference⟩ := Option.bind_eq_some_iff.mp hnamed
  obtain ⟨hnames, hrows⟩ := hrun sharingTurns missingTurn [] hproper
  refine ⟨fun k h => htwo _ k h (by decide), hproper, ?_, hrows "a:b:c:d"⟩
  exact hnames.failure f "a:b:c:d" hfailure hreference

/-- Three keys share a reference. Two of them have rows, the records of their registrations are the same, and the
schema that is said to be missing is the third. -/
theorem colons_share_reference :
    spaceColonKey.reference = nameColonKey.reference ∧ spaceColonKey ≠ nameColonKey ∧
      (leave sharingTurns [] .empty).2.rows.map Row.reference = ["a:b:c:d", "a:b:c:d"] ∧
      (runAll (sharingTurns ++ [missingTurn]) [] .empty).map Prod.snd =
        [[⟨.info, .registry, "Registered schema a:b:c:d by ada"⟩],
          [⟨.info, .registry, "Registered schema a:b:c:d by ada"⟩], []] ∧
      (runAll (sharingTurns ++ [missingTurn]) [] .empty).map
          (fun told => (failureOf told.1).bind Failure.reference?) =
        [none, none, some "a:b:c:d"] := by
  refine ⟨?_, ?_, ?_, ?_, ?_⟩ <;> decide +kernel

end Turn

end SchemaRegistry
