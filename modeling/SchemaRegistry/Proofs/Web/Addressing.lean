import SchemaRegistry.Proofs.Web.Frame
import SchemaRegistry.Proofs.Web.PathRoundTrip
import SchemaRegistry.Proofs.Web.Registering

/-!
# Where a schema is found

A schema that is registered has an address: the percent-encoded parts of its key, as the last three segments of
a path. What a key may hold is decided by the model, and what a path can say by the routes, which see the path
only after it is decoded. The two agree on all texts but one kind: a slash in a part of a key is one segment
more. `registered_addressed` says that a registered schema is found at its address, and can be approved there,
just if no part of its key has a slash. With a slash in its key a schema is listed, but nothing leads to it.
-/

namespace SchemaRegistry

/-! ## Addresses -/

namespace Key

/-- The path at which the schema of a key is found. -/
def address (k : Key) : String :=
  "/schemas/" ++ Percent.encode k.space.text ++ "/" ++ Percent.encode k.name.text ++ "/" ++
    Percent.encode k.version.text

/-- No part of the key has a slash. -/
def Addressable (k : Key) : Prop :=
  '/' ∉ k.space.text.toList ∧ '/' ∉ k.name.text.toList ∧ '/' ∉ k.version.text.toList

instance (k : Key) : Decidable k.Addressable :=
  inferInstanceAs
    (Decidable ('/' ∉ k.space.text.toList ∧ '/' ∉ k.name.text.toList ∧ '/' ∉ k.version.text.toList))

/-- The parts of the key as segments. -/
def segments (k : Key) : KeySegments := ⟨k.space.text, k.name.text, k.version.text⟩

/-- What the parts of the key are cut into at their slashes. -/
def cuts (k : Key) : List (List Char) :=
  Text.splitOn '/' k.space.text.toList ++
    (Text.splitOn '/' k.name.text.toList ++ Text.splitOn '/' k.version.text.toList)

/-- The address is decoded to the parts as they are. -/
theorem decode_address (k : Key) {suffix : String} (h : '%' ∉ suffix.toList) :
    Percent.decode (k.address ++ suffix).toList =
      '/' :: ("schemas".toList ++ '/' :: (k.space.text.toList ++ '/' :: (k.name.text.toList ++
        '/' :: (k.version.text.toList ++ suffix.toList)))) :=
  k.segments.decode_address h

/-- The segments of the decoded address: a slash in a part makes one more. -/
theorem splitOn_address (k : Key) :
    Text.splitOn '/' (Percent.decode k.address.toList) = [] :: "schemas".toList :: k.cuts := by
  have hempty : '%' ∉ "".toList := by decide
  have haddress := k.decode_address hempty
  have hschemas : Text.splitOn '/' "schemas".toList = ["schemas".toList] := by decide
  rw [String.append_empty] at haddress
  rw [haddress, ← List.nil_append ('/' :: _)]
  simp only [Text.splitOn_append, hschemas, cuts, String.toList_empty, List.append_nil]
  rfl

/-- The verb behind an address is a segment of its own. -/
theorem splitOn_approval (k : Key) :
    Text.splitOn '/' (Percent.decode (k.address ++ "/approve").toList) =
      [] :: "schemas".toList :: (k.cuts ++ ["approve".toList]) := by
  have hverb : "/approve".toList = '/' :: "approve".toList := rfl
  have hschemas : Text.splitOn '/' "schemas".toList = ["schemas".toList] := by decide
  have happrove : Text.splitOn '/' "approve".toList = ["approve".toList] := by decide
  rw [k.decode_address (by decide), ← List.nil_append ('/' :: _), hverb]
  simp only [Text.splitOn_append, hschemas, happrove, cuts, List.append_assoc]
  rfl

theorem cuts_of_addressable {k : Key} (h : k.Addressable) :
    k.cuts = [k.space.text.toList, k.name.text.toList, k.version.text.toList] := by
  simp only [cuts, Text.splitOn_of_not_mem h.1, Text.splitOn_of_not_mem h.2.1,
    Text.splitOn_of_not_mem h.2.2, List.singleton_append]

theorem four_le_length_cuts {k : Key} (h : ¬ k.Addressable) : 4 ≤ k.cuts.length := by
  have hpos (cs : List Char) : 0 < (Text.splitOn '/' cs).length := Text.length_splitOn_pos
  have hspace := hpos k.space.text.toList
  have hname := hpos k.name.text.toList
  have hversion := hpos k.version.text.toList
  rw [cuts, List.length_append, List.length_append]
  simp only [Addressable, not_and_or, not_not] at h
  rcases h with h | h | h <;> have := Text.two_le_length_splitOn h <;> omega

theorem segments?_parts (k : Key) :
    Route.segments? k.space.text.toList k.name.text.toList k.version.text.toList = some k.segments := by
  have hne (part : KeyPart) : part.text.toList.isEmpty = false := by
    have hleast := part.fits.1
    rw [← String.length_toList] at hleast
    rw [List.isEmpty_eq_false_iff]
    exact List.ne_nil_of_length_pos hleast
  simp [Route.segments?, hne, segments]

/-- The segments of a key are not too long, and address it. -/
theorem keyOf_segments (k : Key) (why : List Refusal) : Service.keyOf k.segments why = .ok k := by
  have hshort (name : String) (part : KeyPart) : Service.segmentRefusals name part.text = [] :=
    if_neg (Nat.not_lt.mpr (part.fits.2 128 rfl))
  have hnone : Service.pathRefusals k.segments = [] := by
    simp only [Service.pathRefusals, segments, hshort, List.append_nil]
  rw [Service.keyOf, hnone]
  simp only [segments, k.ofParts_text]

end Key

/-! ## Requests to an address -/

/-- What a path asks for as it stands in a request: it is decoded once. -/
def Target.ofPath (path : String) : Target := ⟨Percent.decode path.toList, []⟩

namespace Request

/-- The request to fetch the schema of a key. -/
def fetching (k : Key) : Request := { method := .get, target := .ofPath k.address, body := .absent }

/-- The request to approve the schema of a key. -/
def approving (k : Key) (body : Body) : Request :=
  { method := .post, target := .ofPath (k.address ++ "/approve"), body := body }

/-- The request does not decide on the schema of a key. -/
def Spares (request : Request) (k : Key) : Prop :=
  ∀ d s, request.Decides d s → Key.ofParts s.space s.name s.version ≠ .accepted k

/-- To register a schema is to decide on none. -/
theorem Registers.spares {request : Request} (h : request.Registers) (k : Key) : request.Spares k :=
  fun _ _ hdecides => nomatch h.2.symm.trans hdecides.2

variable {k : Key}

theorem route_fetching (h : k.Addressable) :
    Route.ofPath? (fetching k).target.path = some (.schema k.segments) := by
  rw [fetching, Target.ofPath, Route.ofPath?, k.splitOn_address, Key.cuts_of_addressable h]
  simp [Route.ofSegments?, k.segments?_parts]

theorem route_approving (h : k.Addressable) (body : Body) :
    Route.ofPath? (approving k body).target.path = some (.decision .approve k.segments) := by
  rw [approving, Target.ofPath, Route.ofPath?, k.splitOn_approval, Key.cuts_of_addressable h]
  simp [Route.ofSegments?, k.segments?_parts, Route.endsWith]

/-- Whatever else the address of a key with a slash may lead to, it is nothing that can be read. -/
theorem route_fetching_of_slash (h : ¬ k.Addressable) {route : Route}
    (hroute : Route.ofPath? (fetching k).target.path = some route) : .get ∉ route.methods := by
  rw [fetching, Target.ofPath, Route.ofPath?, k.splitOn_address] at hroute
  have hlength := Key.four_le_length_cuts h
  refine Route.not_get_of_length ?_ hroute
  rw [List.length_cons, List.length_cons]
  omega

theorem route_approving_of_slash (h : ¬ k.Addressable) (body : Body) :
    Route.ofPath? (approving k body).target.path = none := by
  rw [approving, Target.ofPath, Route.ofPath?, k.splitOn_approval]
  have hlength := Key.four_le_length_cuts h
  refine Route.ofSegments?_of_length ?_
  rw [List.length_cons, List.length_cons, List.length_append, List.length_singleton]
  omega

end Request

namespace Service

/-! ## What happens at an address -/

/-- The row of the key is approved and all other rows stay as they are. -/
structure Approves (t : Table) (k : Key) (updatedBy : String) (served : Served) : Prop where
  status : served.response.status = 200
  rows : ∃ before row after updatedAt, t.rows = before ++ row :: after ∧ row.hasKey k ∧
    row.state = .known .created ∧ (∀ other ∈ before ++ after, ¬ other.hasKey k) ∧
    served.table.rows =
      before ++
        { row with
          state := .known .approved
          updatedBy := some updatedBy
          updatedAt := some updatedAt } :: after

/-- The schema is found at its address and can be approved there. -/
structure Addressed (t : Table) (d : Details) : Prop where
  fetched {around : Surroundings} : around.online = true →
    serve around t (.fetching d.key) = reply t ⟨200, d.toJson⟩
  approved {around : Surroundings} {body : Body} {payload : Payload} {change : StateChange} :
    around.Ready → body.read around.stack = .ok payload →
    payload.check .stateChange StateChange.check = .accepted change →
    Approves t d.key change.updatedBy.text (serve around t (.approving d.key body))

/-- The schema is not found at its address, and cannot be approved there. -/
structure Unaddressed (t : Table) (d : Details) : Prop where
  fetched (around : Surroundings) : (serve around t (.fetching d.key)).response.status ≠ 200
  approved (around : Surroundings) (body : Body) :
    (serve around t (.approving d.key body)).response.status ≠ 200 ∧
      (serve around t (.approving d.key body)).table = t

variable {around : Surroundings} {t : Table} {request : Request} {served : Served} {id : Int} {e : Entry}
  {k : Key}

/-- A schema without a ruling is found at its address, if it has no slash. -/
theorem addressed_of_holds (h : t.Sound) (he : t.Holds id e) (hopen : e.ruling = none)
    (haddressable : e.key.Addressable) : Addressed t e.details where
  fetched {around} honline := by
    have hmethod : (Request.fetching e.key).method ∈ (Route.schema e.key.segments).methods := by
      simp [Request.fetching, Route.methods]
    have hserved : serve around t (.fetching e.key) = reply t ⟨200, e.details.toJson⟩ := by
      rw [serve_of_route (Request.route_fetching haddressable) (.inl rfl) hmethod, serveRoute, get]
      simp only [Key.keyOf_segments]
      rw [asking, if_pos honline, Registry.get_of_holds h he]
      rfl
    exact hserved
  approved {around body payload change} hready hbody hcheck := by
    obtain ⟨now, hnow⟩ := Option.ne_none_iff_exists'.mp hready.clock
    obtain ⟨before, after, hrows, hothers⟩ := exists_rows_of_holds h he
    have hmethod : (Request.approving e.key body).method ∈
        (Route.decision .approve e.key.segments).methods := by
      simp [Request.approving, Route.methods]
    have hserved : serve around t (.approving e.key body) =
        ⟨⟨200, (e.rule (.made .approve change.updatedBy.text now)).details.toJson⟩,
          t.ruled id .approve change.updatedBy.text now,
          [Registry.movedRecord e.key .approve change.updatedBy.text]⟩ := by
      rw [serve_of_route (Request.route_approving haddressable body) (.inr rfl) hmethod, serveRoute, withBody,
        Request.approving]
      simp only [hbody, decide, Key.keyOf_segments, hcheck]
      rw [asking, if_pos hready.online, hnow, Registry.decide_of_open h he hopen]
      rfl
    have hkey : e.details.key = e.key := rfl
    rw [hkey, hserved]
    exact
      { status := rfl
        rows :=
          ⟨before, e.row id, after, .ofTime now, hrows, Entry.hasKey_row.mpr rfl,
            congrArg Stored.known (Entry.state_eq_created.mpr hopen),
            fun other hother => (hothers other hother).2,
            rows_ruled hrows (fun other hother => (hothers other hother).1) hopen _ _ _⟩ }

/-- What is no route is answered without success. -/
theorem status_noRoute (redirects : Prop) [Decidable redirects] (query : List Nat) (t : Table) :
    (reply t (if redirects then .redirect query else .notFound)).response.status ≠ 200 := by
  split
  case isTrue =>
    unfold Response.redirect
    split <;> simp [reply, Response.internal]
  case isFalse => simp [reply, Response.notFound, Response.detail]

/-- Where no route leads, nothing happens. -/
theorem unaddressed_of_slash {d : Details} (h : ¬ d.key.Addressable) (t : Table) : Unaddressed t d where
  fetched around := by
    rw [serve_eq_answer (.inl rfl), answer]
    split
    case h_1 => exact status_noRoute _ _ _
    case h_2 route hroute =>
      -- The path may be that of a verb, whose route answers to POST alone.
      have hmethod : (Request.fetching d.key).method ∉ route.methods :=
        Request.route_fetching_of_slash h hroute
      rw [if_neg hmethod]
      simp [reply, Response.methodNotAllowed, Response.detail]
  approved around body := by
    rw [serve_eq_answer (.inr rfl), answer]
    simp only [Request.route_approving_of_slash h body]
    exact ⟨status_noRoute _ _ _, rfl⟩

/-! ## Requests in between -/

/-- A request leaves alone what it does not decide on. -/
theorem Effect.holds (h : Effect around t request served) (hsound : t.Sound) (he : t.Holds id e)
    (hspares : request.Spares e.key) : served.table.Holds id e := by
  cases h with
  | keeps htable => exact htable ▸ he
  | registers _ hfree => exact Table.holds_add.mpr (.inl he)
  | @decides d s other e' updatedBy now logs hrequest haddressed he' hopen =>
    -- The row that is ruled on is another one, since the request addresses its key.
    refine (Table.holds_ruled hsound he' hopen).mpr ?_
    rw [if_neg]
    · exact he
    · rintro rfl
      rw [hsound.entry_eq he he'] at hspares
      exact hspares d s hrequest haddressed

theorem holds_run {visits : List Visit} (hsound : t.Sound) (he : t.Holds id e)
    (hspares : ∀ visit ∈ visits, visit.request.Spares e.key) : (run visits t).2.Holds id e := by
  induction visits generalizing t with
  | nil => exact he
  | cons visit visits ih =>
    have heffect := effect_serve hsound visit.around visit.request
    exact ih (heffect.sound hsound) (heffect.holds hsound he (hspares visit (by simp)))
      fun other hother => hspares other (by simp [hother])

/-- What is answered 201 is a schema that was registered with a key that was free. -/
theorem exists_draft (hsound : t.Sound) (hrequest : request.Registers)
    (hstatus : (serve around t request).response.status = 201) :
    ∃ draft : Table.Draft, (serve around t request).response = ⟨201, draft.entry.details.toJson⟩ ∧
      (serve around t request).table = t.add draft := by
  have heffect := effect_serve hsound around request
  generalize serve around t request = served at *
  cases heffect with
  | keeps _ _ hregister => exact absurd hstatus (hregister hrequest)
  | @registers draft => exact ⟨draft, rfl, rfl⟩
  | decides => cases hstatus

/-- **A registered schema is found at its address just if its key has no slash**, whatever requests were served
before it was registered, and whatever requests that do not decide on it are served after that. -/
theorem registered_addressed {visits : List Visit} (hrequest : request.Registers)
    (hstatus : (serve around (run visits .empty).2 request).response.status = 201) :
    ∃ d, (serve around (run visits .empty).2 request).response = ⟨201, d.toJson⟩ ∧
      ∀ between : List Visit, (∀ visit ∈ between, visit.request.Spares d.key) →
        let t := (run between (serve around (run visits .empty).2 request).table).2
        (d.key.Addressable → Addressed t d) ∧ (¬ d.key.Addressable → Unaddressed t d) := by
  have hsound := sound_run .empty visits
  have hleft := (effect_serve hsound around request).sound hsound
  obtain ⟨draft, hresponse, htable⟩ := exists_draft hsound hrequest hstatus
  rw [htable] at hleft ⊢
  refine ⟨draft.entry.details, hresponse, fun between hspares => ⟨fun haddressable => ?_, fun hslash => ?_⟩⟩
  · have hholds := holds_run hleft (Table.holds_new _ draft) hspares
    exact addressed_of_holds (sound_run hleft between) hholds rfl haddressable
  · exact unaddressed_of_slash hslash _

/-! ## Two namespaces -/

/-- A request to register a schema of a namespace. -/
def sampleRegistering (space : String) : Request :=
  posting "/schemas"
    (.obj
      [("schema_key", .obj (Key.fieldsOf space "client" "v1")),
       ("attributes", .arr [.obj [("type", .str "LONG"), ("name", .str "id")]]),
       ("created_by", .str "ada")])

/-- The values of the fields of the key that a response tells. -/
def toldKey (response : Response) : List String :=
  match response.body with
  | .obj ((_, .obj fields) :: _) => fields.map (·.2.plainText)
  | _ => []

theorem toldKey_details {d : Details} :
    toldKey ⟨201, d.toJson⟩ = [d.key.space.text, d.key.name.text, d.key.version.text] := rfl

theorem registers_sample (space : String) : (sampleRegistering space).Registers :=
  ⟨rfl, (by decide +kernel : Route.ofPath? "/schemas".toList = some .schemas)⟩

/-- A namespace with blanks, a sign of the query and a letter beyond ASCII has an address. -/
theorem registered_addressed_blank :
    let served := serve sampleAround (run sampleVisits .empty).2 (sampleRegistering "pay & bär")
    (sampleRegistering "pay & bär").Registers ∧ served.response.status = 201 ∧
      ∃ d, served.response = ⟨201, d.toJson⟩ ∧
        d.key.address = "/schemas/pay%20%26%20b%C3%A4r/client/v1" ∧ d.key.Addressable ∧
        Addressed (run [⟨sampleAround, sampleRegistering "pay/eu"⟩] served.table).2 d := by
  intro served
  obtain ⟨hstatus, htold⟩ : served.response.status = 201 ∧
      toldKey served.response = ["pay & bär", "client", "v1"] := by decide +kernel
  obtain ⟨d, hresponse, hd⟩ := registered_addressed (registers_sample _) hstatus
  rw [hresponse, toldKey_details] at htold
  simp only [List.cons.injEq, and_true] at htold
  obtain ⟨hspace, hname, hversion⟩ := htold
  have haddress : d.key.address = "/schemas/pay%20%26%20b%C3%A4r/client/v1" := by
    rw [Key.address, hspace, hname, hversion]
    decide +kernel
  have haddressable : d.key.Addressable := by
    rw [Key.Addressable, hspace, hname, hversion]
    decide
  have hspares : ∀ visit ∈ [(⟨sampleAround, sampleRegistering "pay/eu"⟩ : Visit)], visit.request.Spares d.key := by
    intro visit hvisit
    obtain rfl := List.mem_singleton.mp hvisit
    exact (registers_sample _).spares d.key
  exact ⟨registers_sample _, hstatus, d, hresponse, haddress, haddressable,
    (hd _ hspares).1 haddressable⟩

/-- A slash in a namespace leaves the schema without an address. -/
theorem slash_not_addressed :
    let served := serve sampleAround .empty (sampleRegistering "pay/eu")
    served.response.status = 201 ∧
      ∃ d, served.response = ⟨201, d.toJson⟩ ∧ d.key.address = "/schemas/pay%2Feu/client/v1" ∧
        Unaddressed served.table d := by
  intro served
  obtain ⟨hstatus, htold⟩ : served.response.status = 201 ∧
      toldKey served.response = ["pay/eu", "client", "v1"] := by decide +kernel
  obtain ⟨draft, hresponse, -⟩ := exists_draft .empty (registers_sample _) hstatus
  rw [hresponse, toldKey_details] at htold
  simp only [List.cons.injEq, and_true] at htold
  obtain ⟨hspace, hname, hversion⟩ := htold
  refine ⟨hstatus, _, hresponse, ?_, unaddressed_of_slash ?_ _⟩
  · rw [Key.address, hspace, hname, hversion]
    decide +kernel
  · rw [Key.Addressable, hspace, hname, hversion]
    decide

end Service

end SchemaRegistry
