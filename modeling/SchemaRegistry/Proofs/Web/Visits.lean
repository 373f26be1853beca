import SchemaRegistry.Proofs.Web.Effect

/-!
# Requests one after the other

From the empty table on, requests leave a sound table behind, whatever they ask for. So every row can be
turned into the details that it was made from. As long as the database can be reached, a fault of the service is
answered in two cases only, which no row has a part in: something is to be stored and the clock shows no day of the
calendar, or a request is to be led to another path with a query that is no text.
-/

namespace SchemaRegistry

/-- A request and what the service knows when it comes. -/
structure Visit where
  around : Surroundings
  request : Request

namespace Service

/-- Serves requests one after the other: the responses and the table that is left behind. -/
def run : List Visit → Table → List Response × Table
  | [], t => ([], t)
  | visit :: rest, t =>
    let served := serve visit.around t visit.request
    let (responses, t) := run rest served.table
    (served.response :: responses, t)

theorem sound_run {t : Table} (h : t.Sound) (visits : List Visit) : (run visits t).2.Sound := by
  induction visits generalizing t with
  | nil => exact h
  | cons visit visits ih => exact ih ((effect_serve h visit.around visit.request).sound h)

end Service

/-- When a request is answered with a fault of the service. -/
structure Visit.Answered (visit : Visit) (response : Response) : Prop where
  fault : response.status = 500 →
    visit.request.Garbled ∨ visit.around.now = none ∧ visit.request.Writes
  garbled : visit.request.Garbled → response.status = 500

namespace Service

/-- Where the database can be reached, a request at a sound table is answered so. -/
theorem answered_serve {t : Table} (h : t.Sound) {visit : Visit} (honline : visit.around.online = true) :
    visit.Answered (serve visit.around t visit.request).response where
  fault h500 := by
    cases (effect_serve h visit.around visit.request).hampers h500 with
    | offline hoffline => exact absurd honline (by simp [hoffline])
    | clockless hnow hwrites => exact .inr ⟨hnow, hwrites⟩
    | garbled hgarbled => exact .inl hgarbled
  garbled hgarbled := status_of_garbled hgarbled visit.around t

theorem answered_run {t : Table} (h : t.Sound) {visits : List Visit}
    (honline : ∀ visit ∈ visits, visit.around.online = true) :
    List.Forall₂ Visit.Answered visits (run visits t).1 := by
  induction visits generalizing t with
  | nil => exact .nil
  | cons visit visits ih =>
    have hrest := ih ((effect_serve h visit.around visit.request).sound h) fun other hother =>
      honline other (by simp [hother])
    exact .cons (answered_serve h (honline visit (by simp))) hrest

end Service

/-! ## Rows and details -/

/-- The row can be turned into these details: its columns can be read, its choices are known ones, and its
text is the JSON of a set of attributes. -/
structure Row.Rebuilds (r : Row) (d : Details) : Prop where
  details : (r.load).bind LoadedRow.details = .ok d
  hasKey : r.hasKey d.key
  state : r.state = .known d.state
  format : r.format = .known d.format
  mode : r.mode = .known d.mode
  attributes : Json.read r.attributes = .ok d.attributes.toJson

/-- A row that holds an entry can be turned into its details. -/
theorem Entry.rebuilds (id : Int) (e : Entry) : (e.row id).Rebuilds e.details where
  details := by
    rw [e.load_row]
    exact e.details_loaded id
  hasKey := hasKey_row.mpr rfl
  state := rfl
  format := rfl
  mode := rfl
  attributes := e.registration.attributes.read_stored

/-- **No internal error is reachable by what is stored.** Requests of any kind leave a table behind of which every row
can be turned into details. As long as the database can be reached, a request is answered with status 500 just if
it is garbled, or perhaps if it writes at a time that no calendar has. -/
theorem Service.never_fails {visits : List Visit}
    (honline : ∀ visit ∈ visits, visit.around.online = true) :
    (∀ r ∈ (run visits .empty).2.rows, ∃ d, r.Rebuilds d) ∧
      List.Forall₂ Visit.Answered visits (run visits .empty).1 := by
  refine ⟨fun r hr => ?_, answered_run .empty honline⟩
  obtain ⟨e, he⟩ := (sound_run .empty visits).rows r hr
  rw [he]
  exact ⟨e.details, e.rebuilds r.id⟩

namespace Service

/-! ## Samples -/

/-- A service that can work. -/
def sampleAround : Surroundings := { now := some Time.sessionStart, online := true, environment := "test" }

theorem sampleAround_ready : sampleAround.Ready := ⟨rfl, by simp [sampleAround]⟩

/-- A `POST` of a JSON value to a path. -/
def posting (path : String) (body : Json) : Request :=
  { method := .post, target := ⟨path.toList, []⟩, body := .json body }

/-- What is posted to register a schema. -/
def sampleRegistration : Json :=
  .obj
    [("schema_key",
      .obj [("namespace", .str "pay"), ("schema_name", .str "client"), ("version", .str "v1")]),
     ("attributes", .arr [.obj [("type", .str "LONG"), ("name", .str "id")]]),
     ("created_by", .str "ada")]

/-- A schema is registered twice, approved and then rejected, and a host type is judged by one that is not
there. -/
def sampleVisits : List Visit :=
  let caller : Json := .obj [("updated_by", .str "ben")]
  let requests :=
    [posting "/schemas" sampleRegistration, posting "/schemas" sampleRegistration,
     posting "/schemas/pay/client/v1/approve" caller, posting "/schemas/pay/client/v1/reject" caller,
     posting "/schemas/pay/server/v1/validate" (.obj [("fields", .arr [])])]
  requests.map (⟨sampleAround, ·⟩)

/-- The service is not at fault when some of the requests are. -/
theorem never_fails_sample :
    (run sampleVisits .empty).1.map (·.status) = [201, 409, 200, 409, 404] ∧
      (∀ visit ∈ sampleVisits, visit.around.online = true) ∧
      (∀ r ∈ (run sampleVisits .empty).2.rows, ∃ d, r.Rebuilds d) ∧
      List.Forall₂ Visit.Answered sampleVisits (run sampleVisits .empty).1 := by
  have honline : ∀ visit ∈ sampleVisits, visit.around.online = true := by
    intro visit hvisit
    obtain ⟨request, -, rfl⟩ := List.mem_map.mp hvisit
    rfl
  exact ⟨by decide +kernel, honline, never_fails honline⟩

/-- A slash too many before a query of one byte that is no character. -/
def garbledVisit : Visit where
  around := sampleAround
  request := { method := .get, target := ⟨"/schemas/".toList, [0xFF]⟩, body := .absent }

/-- A schema is registered while the clock shows a time before the calendar begins. -/
def clocklessVisit : Visit where
  around := { sampleAround with now := none }
  request := posting "/schemas" sampleRegistration

/-- With the database in reach, two requests to an empty table are each answered with a fault of the service. -/
theorem faults_of_service :
    garbledVisit.around.Ready ∧ garbledVisit.request.Garbled ∧
      (run [garbledVisit] .empty).1.map (·.status) = [500] ∧
      clocklessVisit.around.online = true ∧ clocklessVisit.request.Registers ∧
      (run [clocklessVisit] .empty).1.map (·.status) = [500] := by
  have hgarbled : garbledVisit.request.Garbled := ⟨rfl, by decide +kernel, by decide +kernel, by decide +kernel⟩
  exact ⟨sampleAround_ready, hgarbled, by decide +kernel, rfl, ⟨rfl, by decide +kernel⟩, by decide +kernel⟩

end Service

end SchemaRegistry
