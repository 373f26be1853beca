import SchemaRegistry.Proofs.Schema.Places
import SchemaRegistry.Proofs.Web.Visits

/-!
# Registering a schema

What is answered to a request to register a schema depends on two things only: what the model makes of the body,
and whether a row of the table has the key. `Registering` says how, and `registering_decides` proves it for every
JSON body that is read and every table that requests can leave behind. The reader of bodies has limits: a text with
too long a whole number or with too many arrays and objects in each other is never seen by the model.

A client is told each refusal with a path. It is that of the model, since the step to the body is left out and
no path through a registration has a step of that name.
-/

namespace SchemaRegistry

namespace Refusal

/-- The path to what is refused: the steps with dots between them. -/
def path (r : Refusal) : String := ".".intercalate (r.place.map Step.text)

/-- A client is told the path within the body. -/
theorem field_under_body {names : List String} {r : Refusal} (hbody : "body" ∉ names)
    (hplace : ∀ name, Step.name name ∈ r.place → name ∈ names) : (r.under .body).field = r.path := by
  have hkept : r.place.filter (· ≠ .body) = r.place := by
    refine List.filter_eq_self.mpr fun step hstep => ?_
    have hne : step ≠ .body := by
      rintro rfl
      exact hbody (hplace "body" hstep)
    simpa using hne
  rw [field, path, under]
  simp only [List.filter_cons]
  rw [if_neg (by simp), hkept]

end Refusal

/-- The response reports an error with this status and code. -/
def Response.Reports (response : Response) (status : Nat) (code : String) : Prop :=
  response.status = status ∧ ∃ message details, response.body = ErrorReport.envelope code message details

theorem Response.reports_refused (why : List Refusal) :
    (Response.refused why).Reports 422 "VALIDATION_ERROR" :=
  ⟨rfl, _, _, rfl⟩

/-- A row of the table has the key. -/
def Table.Has (t : Table) (k : Key) : Prop := ∃ row ∈ t.rows, row.hasKey k

theorem Table.Free.not_has {t : Table} {k : Key} (h : t.Free k) (hsound : t.Sound) : ¬ t.Has k := by
  rintro ⟨row, hrow, hkey⟩
  obtain ⟨e, he⟩ := hsound.rows row hrow
  rw [he] at hrow hkey
  exact h row.id e hrow (Entry.hasKey_row.mp hkey)

theorem Table.Holds.has {t : Table} {id : Int} {e : Entry} (h : t.Holds id e) : t.Has e.key :=
  ⟨e.row id, h, Entry.hasKey_row.mpr rfl⟩

namespace Service

/-- How a request to register the schema of a JSON body is answered. -/
structure Registering (t : Table) (b : Json) (served : Served) : Prop where
  /-- The body is refused just where it is no registration. -/
  refused_iff :
    served.response.Reports 422 "VALIDATION_ERROR" ↔ ∃ why, Registration.check b = .refused why
  /-- What is told of a body that is refused: each refusal of the model, in the same order, with its path. Only
  `null` is refused for another cause, that of a body which is not there. -/
  refused {why : List Refusal} : Registration.check b = .refused why →
    ∃ told, served.response = .refused told ∧ told.map Refusal.field = why.map Refusal.path ∧
      (b ≠ .null → told.map Refusal.cause = why.map Refusal.cause)
  /-- A schema is not registered twice, and a key that no row has can be registered. -/
  taken_iff : served.response.Reports 409 "SCHEMA_ALREADY_EXISTS" ↔
    ∃ r, Registration.check b = .accepted r ∧ t.Has r.key
  made_iff : served.response.status = 201 ↔ ∃ r, Registration.check b = .accepted r ∧ ¬ t.Has r.key
  /-- The response to a schema that is registered is what its key leads to from then on. -/
  made {r : Registration} : Registration.check b = .accepted r → ¬ t.Has r.key →
    ∃ d, served.response = ⟨201, d.toJson⟩ ∧ Registry.get served.table r.key = .ok d

variable {around : Surroundings} {t : Table} {request : Request} {b : Json} {r : Registration}
  {why : List Refusal}

/-! ## From the request to its handler -/

/-- What is not asked beforehand is served by its path. -/
theorem serve_eq_answer (hmethod : request.method = .get ∨ request.method = .post) :
    serve around t request = answer around t request := by
  have hoptions : request.method ≠ .options := by rcases hmethod with h | h <;> rw [h] <;> decide
  have hhead : request.method ≠ .head := by rcases hmethod with h | h <;> rw [h] <;> decide
  have hrouted : preflight? request = none := if_neg hoptions
  rw [serve, hrouted]
  exact if_neg hhead

/-- A request is served by its route, if the route answers to its method. -/
theorem serve_of_route {route : Route} (hroute : Route.ofPath? request.target.path = some route)
    (hplain : request.method = .get ∨ request.method = .post) (hmethod : request.method ∈ route.methods) :
    serve around t request = serveRoute around t request route := by
  rw [serve_eq_answer hplain, answer]
  simp only [hroute]
  rw [if_pos hmethod]

/-- A request to register a schema is served with its body. -/
theorem serve_of_registers (hrequest : request.Registers) :
    serve around t request = withBody around t request.body (create around t) := by
  obtain ⟨hpost, hroute⟩ := hrequest
  rw [serve_of_route hroute (.inr hpost) (by rw [hpost]; decide), serveRoute, if_neg (by rw [hpost]; decide)]

/-! ## The body -/

/-- A body other than `null` is checked as it is. -/
theorem check_json (hb : b ≠ .null) :
    (Payload.json b).check .registration Registration.check = (Registration.check b).under .body := by
  cases b with
  | null => exact absurd rfl hb
  | _ => rfl

/-- What is told of the refusals of a body. -/
theorem exists_told (h : Registration.check b = .refused why) :
    ∃ told, (Payload.json b).check .registration Registration.check = .refused told ∧
      told.map Refusal.field = why.map Refusal.path ∧
      (b ≠ .null → told.map Refusal.cause = why.map Refusal.cause) := by
  by_cases hb : b = .null
  case pos =>
    subst hb
    cases h
    exact ⟨_, rfl, rfl, fun hb => absurd rfl hb⟩
  case neg =>
    refine ⟨why.map (·.under .body), by rw [check_json hb, h, Checked.under], ?_, fun _ => ?_⟩
    · have hwithin := Registration.within_check b
      rw [h] at hwithin
      rw [List.map_map]
      refine List.map_congr_left fun refusal hrefusal => ?_
      exact Refusal.field_under_body (by decide) (hwithin refusal hrefusal)
    · rw [List.map_map]
      rfl

/-- A body that is taken is not `null`, and is taken by the service as it is by the model. -/
theorem check_of_accepted (h : Registration.check b = .accepted r) :
    (Payload.json b).check .registration Registration.check = .accepted r := by
  have hb : b ≠ .null := by
    rintro rfl
    cases h
  rw [check_json hb, h, Checked.under]

/-! ## The three answers -/

theorem create_of_refused (h : Registration.check b = .refused why) :
    Registering t b (create around t (.json b)) := by
  -- Neither the table nor the surroundings are looked at.
  obtain ⟨told, htold, hfields, hcauses⟩ := exists_told h
  have hcreate : create around t (.json b) = reply t (.refused told) := by rw [create, htold]
  rw [hcreate]
  exact
    { refused_iff := iff_of_true (Response.reports_refused told) ⟨why, h⟩
      refused := fun hwhy => by
        obtain rfl := Checked.refused.inj (h.symm.trans hwhy)
        exact ⟨told, rfl, hfields, hcauses⟩
      taken_iff := by simp [h, reply, Response.refused, Response.Reports]
      made_iff := by simp [h, reply, Response.refused]
      made := fun haccepted => by cases h.symm.trans haccepted }

theorem create_of_has (hready : around.Ready) (hsound : t.Sound) (h : Registration.check b = .accepted r)
    (hhas : t.Has r.key) : Registering t b (create around t (.json b)) := by
  obtain ⟨id, e, he, hkey⟩ := (t.free_or_holds r.key).resolve_left fun hfree => hfree.not_has hsound hhas
  have hcreate : create around t (.json b) = reply t (.failed (Registry.taken r.key)) := by
    rw [create, check_of_accepted h]
    dsimp only
    rw [Registry.create_of_holds hsound he hkey, asking, if_pos hready.online]
    rfl
  rw [hcreate]
  have hstatus : (reply t (.failed (Registry.taken r.key))).response.status = 409 := rfl
  exact
    { refused_iff := by simp [h, Response.Reports, hstatus]
      refused := fun hwhy => by cases h.symm.trans hwhy
      taken_iff := iff_of_true ⟨rfl, _, _, rfl⟩ ⟨r, h, hhas⟩
      made_iff := by simp [h, hstatus, hhas]
      made := fun haccepted hfree => by
        obtain rfl := Checked.accepted.inj (h.symm.trans haccepted)
        exact absurd hhas hfree }

theorem create_of_not_has (hready : around.Ready) (hsound : t.Sound)
    (h : Registration.check b = .accepted r) (hhas : ¬ t.Has r.key) :
    Registering t b (create around t (.json b)) := by
  have hfree : t.Free r.key := (t.free_or_holds r.key).resolve_right fun ⟨_, _, he, hkey⟩ =>
    hhas (hkey ▸ he.has)
  obtain ⟨now, hnow⟩ := Option.ne_none_iff_exists'.mp hready.clock
  let draft : Table.Draft := ⟨r, now⟩
  have hcreate : create around t (.json b) =
      ⟨⟨201, draft.entry.details.toJson⟩, t.add draft, [Registry.registeredRecord r]⟩ := by
    rw [create, check_of_accepted h]
    dsimp only
    rw [hnow, Registry.create_of_free hsound hfree, asking, if_pos hready.online]
    rfl
  rw [hcreate]
  exact
    { refused_iff := by simp [h, Response.Reports]
      refused := fun hwhy => by cases h.symm.trans hwhy
      taken_iff := by simp [h, Response.Reports, hhas]
      made_iff := iff_of_true rfl ⟨r, h, hhas⟩
      made := fun haccepted _ => by
        obtain rfl := Checked.accepted.inj (h.symm.trans haccepted)
        have hget := Registry.get_of_holds (hsound.add hfree) (Table.holds_new t draft)
        exact ⟨_, rfl, hget⟩ }

/-- The text of a value is read as that value, if it is within the limits of the reader, and not at all otherwise. -/
theorem read_json (stack : Nat) (b : Json) :
    (Body.json b).read stack =
      if b.fits (Json.maxDepth - stack) then .ok (.json b) else .error .unreadable := rfl

/-- **The model and the table alone decide** on a request to register the schema of a JSON body that is read, whatever
requests were served before. Of a body that cannot be read only that is told, and the table is left alone; the text
of a JSON value can be read just if it is within the limits of the reader. -/
theorem registering_decides (visits : List Visit) (hready : around.Ready) (hrequest : request.Registers) :
    (∀ b, request.body.read around.stack = .ok (.json b) →
      Registering (run visits .empty).2 b (serve around (run visits .empty).2 request)) ∧
    (request.body.read around.stack = .error .unreadable →
      serve around (run visits .empty).2 request = reply (run visits .empty).2 .unreadable) ∧
    ∀ b, request.body = .json b →
      (request.body.read around.stack = .ok (.json b) ↔ b.fits (Json.maxDepth - around.stack)) ∧
      (request.body.read around.stack = .error .unreadable ↔ ¬ b.fits (Json.maxDepth - around.stack)) := by
  have hsound := sound_run .empty visits
  rw [serve_of_registers hrequest]
  refine ⟨fun b hbody => ?_, fun hbody => ?_, fun b hb => ?_⟩
  · rw [withBody, hbody]
    cases h : Registration.check b with
    | refused why => exact create_of_refused h
    | accepted r =>
      by_cases hhas : (run visits .empty).2.Has r.key
      · exact create_of_has hready hsound h hhas
      · exact create_of_not_has hready hsound h hhas
  · rw [withBody, hbody]
    rfl
  · rw [hb, read_json]
    split
    case isTrue hfits => simp [hfits]
    case isFalse hfits => simp [hfits]

/-- A registration without attributes, of which a part of the key is blank. -/
def sampleRefused : Request :=
  posting "/schemas"
    (.obj
      [("schema_key", .obj (Key.fieldsOf "pay" " " "v1")), ("attributes", .arr []),
       ("created_by", .str "ada")])

/-- Both faults are told, with their paths. -/
theorem registering_decides_blank :
    sampleAround.Ready ∧ sampleRefused.Registers ∧
      ∃ b, sampleRefused.body.read sampleAround.stack = .ok (.json b) ∧
        Registering (run sampleVisits .empty).2 b
          (serve sampleAround (run sampleVisits .empty).2 sampleRefused) ∧
        ∃ told, (serve sampleAround (run sampleVisits .empty).2 sampleRefused).response = .refused told ∧
          told.map Refusal.field = ["schema_key.schema_name", "attributes"] := by
  have hrequest : sampleRefused.Registers := ⟨rfl, by decide +kernel⟩
  have hdecided := (registering_decides sampleVisits sampleAround_ready hrequest).1 _ rfl
  refine ⟨sampleAround_ready, hrequest, _, rfl, hdecided, ?_⟩
  obtain ⟨told, htold, hfields, -⟩ := hdecided.refused rfl
  exact ⟨told, htold, hfields.trans (by decide +kernel)⟩

/-- A schema with a whole number of too many digits, under a name that the model does not know. -/
def sampleOverlong : Json :=
  .obj
    [("schema_key", .obj (Key.fieldsOf "pay" "client" "v1")),
     ("attributes", .arr [.obj [("type", .str "LONG"), ("name", .str "id")]]),
     ("created_by", .str "ada"), ("note", .int ((10 : Nat) ^ Json.maxDigits))]

/-- The model takes the body and no row has its key, but the body is never read. -/
theorem overlong_unreadable :
    (posting "/schemas" sampleOverlong).Registers ∧
      (∃ r, Registration.check sampleOverlong = .accepted r ∧ ¬ Table.empty.Has r.key) ∧
      (serve sampleAround .empty (posting "/schemas" sampleOverlong)).response =
        .detail 400 "There was an error parsing the body" := by
  have hregisters : (posting "/schemas" sampleOverlong).Registers := ⟨rfl, by decide +kernel⟩
  have hread : (posting "/schemas" sampleOverlong).body.read sampleAround.stack = .error .unreadable := by
    have hfits : sampleOverlong.fits (Json.maxDepth - sampleAround.stack) = false := by decide +kernel
    rw [posting, read_json, hfits]
    rfl
  refine ⟨hregisters, ?_, ?_⟩
  · have htaken : (Registration.check sampleOverlong).toOption.isSome := by decide +kernel
    cases h : Registration.check sampleOverlong with
    | accepted r => exact ⟨r, rfl, by simp [Table.Has, Table.empty]⟩
    | refused why =>
      rw [h] at htaken
      cases htaken
  · rw [serve_of_registers hregisters, withBody, hread]
    rfl

end Service

end SchemaRegistry
