import SchemaRegistry.Proofs.Registry.SoundOperations
import SchemaRegistry.Web.Service

/-!
# What a request does

`Service.Effect` says all that serving a request can do to a sound table: nothing, an insertion that is told by
a `POST` to `/schemas` answered 201, or a ruling that is told by a decision answered 200. Where nothing is
changed, the response is no fault of the service, unless the request is hampered: the database cannot be reached,
there is no time to store, or a redirect cannot take the query along. Each handler is looked at once, and whatever
holds of every response follows from the effect.
-/

namespace SchemaRegistry

/-- The service can work: the database can be reached, and the clock shows a day of the calendar. -/
structure Surroundings.Ready (around : Surroundings) : Prop where
  online : around.online = true
  clock : around.now ≠ none

namespace Request

/-- The request is to register a schema. -/
def Registers (request : Request) : Prop :=
  request.method = .post ∧ Route.ofPath? request.target.path = some .schemas

/-- The request is to decide on the schema that segments address. -/
def Decides (request : Request) (d : Decision) (s : KeySegments) : Prop :=
  request.method = .post ∧ Route.ofPath? request.target.path = some (.decision d s)

/-- The request is one that may change the table. -/
def Writes (request : Request) : Prop := request.Registers ∨ ∃ d s, request.Decides d s

/-- The request is to be led to another path, but the bytes of its query are no text. -/
structure Garbled (request : Request) : Prop where
  routed : Service.preflight? request = none
  noRoute : Route.ofPath? request.target.path = none
  redirects : Route.redirects request.target.path = true
  query : Text.Utf8.decodeStrict? request.target.query = none

end Request

/-- Why a request may be answered with a fault of the service itself. -/
inductive Surroundings.Hampers (around : Surroundings) (request : Request) : Prop where
  | offline (h : around.online = false)
  /-- What is stored has a time. -/
  | clockless (h : around.now = none) (writes : request.Writes)
  | garbled (h : request.Garbled)

/-! ## Responses -/

/-- The request is to blame: the status is one of 400 to 499. -/
def Response.Blames (response : Response) : Prop := 400 ≤ response.status ∧ response.status < 500

/-- An error of the service blames the request. -/
theorem Response.blames_service (e : ServiceError) : (Response.failed (.service e)).Blames := by
  rw [failed, Blames]
  cases e <;> simp [ServiceError.status, ServiceError.family, ErrorFamily.status]

theorem Response.blames_refused (why : List Refusal) : (Response.refused why).Blames := by
  simp [refused, Blames]

theorem Response.blames_badBody (fault : BodyFault) : (Response.badBody fault).Blames := by
  cases fault <;> simp [badBody, refused, unreadable, detail, Blames]

namespace Service

/-- The table is left alone, and the service is at fault only if the database cannot be reached. -/
structure Keeps (around : Surroundings) (t : Table) (served : Served) : Prop where
  table : served.table = t
  fault : served.response.status = 500 → around.online = false

/-- The request is declined: the table is left alone, and either the request is to blame or the database cannot be
reached. -/
structure Declines (around : Surroundings) (t : Table) (served : Served) : Prop where
  table : served.table = t
  blames_or : served.response.Blames ∨ served.response.status = 500 ∧ around.online = false

/-- What serving a request does to a sound table. -/
inductive Effect (around : Surroundings) (t : Table) (request : Request) : Served → Prop where
  | keeps {served : Served} (table : served.table = t)
      (fault : served.response.status = 500 → around.Hampers request)
      (register : request.Registers → served.response.status ≠ 201)
      (decide : ∀ d s, request.Decides d s → served.response.status ≠ 200) :
      Effect around t request served
  /-- A new schema is inserted, and its details are the response. -/
  | registers {d : Table.Draft} {logs : List LogRecord} (request_eq : request.Registers)
      (free : t.Free d.registration.key) :
      Effect around t request ⟨⟨201, d.entry.details.toJson⟩, t.add d, logs⟩
  /-- An open schema is ruled on, and its details are the response. -/
  | decides {d : Decision} {s : KeySegments} {id : Int} {e : Entry} {updatedBy : String}
      {now : Time.DateTime} {logs : List LogRecord} (request_eq : request.Decides d s)
      (addressed : Key.ofParts s.space s.name s.version = .accepted e.key) (holds : t.Holds id e)
      (isOpen : e.ruling = none) :
      Effect around t request
        ⟨⟨200, (e.rule (.made d updatedBy now)).details.toJson⟩, t.ruled id d updatedBy now, logs⟩

variable {around : Surroundings} {t : Table} {request : Request} {served : Served}
  {response : Response} {k : Key} {s : KeySegments} {why : List Refusal}

/-! ## Requests that change nothing -/

theorem Keeps.reply (h : response.status ≠ 500) : Keeps around t (reply t response) :=
  ⟨rfl, fun h500 => absurd h500 h⟩

theorem Declines.keeps (h : Declines around t served) : Keeps around t served where
  table := h.table
  fault h500 := by
    rcases h.blames_or with hblames | ⟨-, hoffline⟩
    · exact absurd h500 hblames.2.ne
    · exact hoffline

theorem Declines.reply (h : response.Blames) : Declines around t (reply t response) := ⟨rfl, .inl h⟩

theorem Declines.internal (h : around.online = false) : Declines around t (Service.reply t .internal) :=
  ⟨rfl, .inr ⟨rfl, h⟩⟩

/-- Without a time to store, a request that would change the table fails. -/
theorem effect_internal (h : around.now = none) (hwrites : request.Writes) :
    Effect around t request (reply t .internal) :=
  .keeps rfl (fun _ => .clockless h hwrites) (fun _ => by simp [reply, Response.internal])
    fun _ _ _ => by simp [reply, Response.internal]

/-- What is declined has neither of the statuses of success. -/
theorem Declines.effect (h : Declines around t served) : Effect around t request served := by
  refine .keeps h.table (fun h500 => .offline (h.keeps.fault h500)) (fun _ hstatus => ?_)
    (fun _ _ _ hstatus => ?_)
  all_goals
    rcases h.blames_or with hblames | ⟨hfault, -⟩
    · exact absurd hblames.1 (by rw [hstatus]; decide)
    · rw [hstatus] at hfault
      cases hfault

/-- The registry is asked only if it can be reached, and else the request is declined. -/
theorem asking_eq_or (around : Surroundings) (t : Table) (served : Served) :
    asking around t served = served ∨ Declines around t (asking around t served) := by
  unfold asking
  split
  case isTrue => exact .inl rfl
  case isFalse honline => exact .inr (.internal (by simpa using honline))

theorem Keeps.asking (h : Keeps around t served) : Keeps around t (asking around t served) := by
  rcases asking_eq_or around t served with hasked | hdeclined
  · rwa [hasked]
  · exact hdeclined.keeps

theorem Effect.asking (h : Effect around t request served) :
    Effect around t request (asking around t served) := by
  rcases asking_eq_or around t served with hasked | hdeclined
  · rwa [hasked]
  · exact hdeclined.effect

/-! ## Keys -/

/-- A key that cannot be built is declined. -/
theorem blames_of_keyOf (h : keyOf s why = .error response) : response.Blames := by
  unfold keyOf at h
  split at h
  · split at h
    · cases h
    · cases h
      exact Response.blames_refused _
  · cases h
    exact Response.blames_refused _

/-- The key that is addressed is that of the segments. -/
theorem ofParts_of_keyOf (h : keyOf s why = .ok k) :
    Key.ofParts s.space s.name s.version = .accepted k := by
  unfold keyOf at h
  split at h
  · split at h
    case h_1 haccepted =>
      cases h
      exact haccepted
    · cases h
  · cases h

/-! ## Handlers that read -/

theorem keeps_health : Keeps around t (health around t) := by
  refine .reply ?_
  split <;> simp

theorem keeps_list (h : t.Sound) (query : List (String × String)) :
    Keeps around t (list around t query) := by
  unfold list
  split
  case h_1 why _ => exact (Declines.reply (Response.blames_refused why)).keeps
  case h_2 state _ =>
    obtain ⟨ds, hds⟩ := Registry.exists_list_eq h (parameter? query "namespace") state
    rw [hds]
    exact Keeps.asking (.reply (by simp [Response.answering]))

theorem keeps_get (h : t.Sound) (s : KeySegments) : Keeps around t (get around t s) := by
  unfold get
  split
  case h_1 hkey => exact (Declines.reply (blames_of_keyOf hkey)).keeps
  case h_2 k _ =>
    refine Keeps.asking ?_
    rcases t.free_or_holds k with hfree | ⟨id, e, he, rfl⟩
    · rw [Registry.get_of_free h hfree]
      exact (Declines.reply (Response.blames_service _)).keeps
    · rw [Registry.get_of_holds h he]
      exact .reply (by simp [Response.answering])

theorem keeps_validate (h : t.Sound) (s : KeySegments) (payload : Payload) :
    Keeps around t (validate around t s payload) := by
  unfold validate
  dsimp only
  split
  case h_1 hkey => exact (Declines.reply (blames_of_keyOf hkey)).keeps
  case h_2 k _ =>
    split
    case h_1 why _ => exact (Declines.reply (Response.blames_refused why)).keeps
    case h_2 hostType _ =>
      refine Keeps.asking ?_
      rcases t.free_or_holds k with hfree | ⟨id, e, he, rfl⟩
      · rw [Registry.validate_of_free h hfree]
        exact (Declines.reply (Response.blames_service _)).keeps
      · rw [Registry.validate_of_holds h he]
        exact ⟨rfl, by simp [outcome, Response.answering]⟩

/-! ## Handlers that change the table -/

theorem effect_create (h : t.Sound) (hrequest : request.Registers) (payload : Payload) :
    Effect around t request (create around t payload) := by
  unfold create
  split
  case h_1 why _ => exact (Declines.reply (Response.blames_refused why)).effect
  case h_2 r _ =>
    refine Effect.asking ?_
    rcases t.free_or_holds r.key with hfree | ⟨id, e, he, hkey⟩
    · cases hnow : around.now with
      | none =>
        -- Without a time to store, the registry cannot register.
        have hfails : Registry.create ⟨t, []⟩ none .none r =
            Registry.reading ⟨t, []⟩ (.error .clockOutOfRange) := by
          simp only [Registry.create, Table.find?_of_free h hfree]
        rw [hfails]
        exact effect_internal hnow (.inl hrequest)
      | some now =>
        rw [Registry.create_of_free h hfree]
        exact .registers (d := ⟨r, now⟩) hrequest hfree
    · rw [Registry.create_of_holds h he hkey]
      exact (Declines.reply (Response.blames_service _)).effect

theorem effect_decide {d : Decision} (h : t.Sound) (hrequest : request.Decides d s) (payload : Payload) :
    Effect around t request (decide around t d s payload) := by
  unfold decide
  dsimp only
  split
  case h_1 hkey => exact (Declines.reply (blames_of_keyOf hkey)).effect
  case h_2 k hkey =>
    split
    case h_1 why _ => exact (Declines.reply (Response.blames_refused why)).effect
    case h_2 change _ =>
      refine Effect.asking ?_
      rcases t.free_or_holds k with hfree | ⟨id, e, he, rfl⟩
      · rw [Registry.decide_of_free h hfree]
        exact (Declines.reply (Response.blames_service _)).effect
      · cases hnow : around.now with
        | none =>
          have hfails : Registry.decide ⟨t, []⟩ none .none e.key d change.updatedBy.text =
              Registry.reading ⟨t, []⟩ (.error .clockOutOfRange) := by
            simp only [Registry.decide, Table.require_of_holds h he]
          rw [hfails]
          exact effect_internal hnow (.inr ⟨d, s, hrequest⟩)
        | some now =>
          by_cases hopen : e.ruling = none
          · rw [Registry.decide_of_open h he hopen]
            exact .decides hrequest (ofParts_of_keyOf hkey) he hopen
          · rw [Registry.decide_of_closed h he hopen]
            exact (Declines.reply (Response.blames_service _)).effect

/-! ## Every request -/

/-- A request that changes nothing and neither registers nor decides. -/
theorem Keeps.effect (h : Keeps around t served) (hregister : ¬ request.Registers)
    (hdecide : ∀ d s, ¬ request.Decides d s) : Effect around t request served :=
  .keeps h.table (fun h500 => .offline (h.fault h500)) (fun hrequest => absurd hrequest hregister)
    fun d s hrequest => absurd hrequest (hdecide d s)

/-- Only a `POST` registers or decides. -/
theorem Keeps.effect_of_method (h : Keeps around t served) (hmethod : request.method ≠ .post) :
    Effect around t request served :=
  h.effect (fun hrequest => hmethod hrequest.1) fun _ _ hrequest => hmethod hrequest.1

/-- A body is read before the request is served. -/
theorem effect_withBody {body : Body} {serve : Payload → Served}
    (h : ∀ payload, Effect around t request (serve payload)) :
    Effect around t request (withBody around t body serve) := by
  unfold withBody
  split
  case h_1 fault _ => exact (Declines.reply (Response.blames_badBody fault)).effect
  case h_2 payload _ => exact h payload

theorem keeps_withBody {body : Body} {serve : Payload → Served}
    (h : ∀ payload, Keeps around t (serve payload)) : Keeps around t (withBody around t body serve) := by
  unfold withBody
  split
  case h_1 fault _ => exact (Declines.reply (Response.blames_badBody fault)).keeps
  case h_2 payload _ => exact h payload

/-- The effect of a request at a route that answers to its method. -/
theorem effect_serveRoute {route : Route} (h : t.Sound)
    (hroute : Route.ofPath? request.target.path = some route)
    (hmethod : request.method ∈ route.methods) :
    Effect around t request (serveRoute around t request route) := by
  have hother {served : Served} (hkeeps : Keeps around t served) (hschemas : route ≠ .schemas)
      (hdecision : ∀ d s, route ≠ .decision d s) : Effect around t request served := by
    refine hkeeps.effect (fun hrequest => ?_) fun d s hrequest => ?_
    · exact hschemas (Option.some.inj (hroute.symm.trans hrequest.2))
    · exact hdecision d s (Option.some.inj (hroute.symm.trans hrequest.2))
  cases route with
  | page p => exact hother (.reply (by simp)) (by simp) (by simp)
  | health => exact hother keeps_health (by simp) (by simp)
  | schema s => exact hother (keeps_get h s) (by simp) (by simp)
  | validation s => exact hother (keeps_withBody (keeps_validate h s)) (by simp) (by simp)
  | decision d s =>
    have hpost : request.method = .post := by simpa [Route.methods] using hmethod
    exact effect_withBody (effect_decide h ⟨hpost, hroute⟩)
  | schemas =>
    rw [serveRoute]
    split
    case isTrue hget => exact (keeps_list h _).effect_of_method (by rw [hget]; decide)
    case isFalse hget =>
      have hpost : request.method = .post := by simpa [Route.methods, hget] using hmethod
      exact effect_withBody (effect_create h ⟨hpost, hroute⟩)

/-- A redirect fails just if the query is no text. -/
theorem status_redirect (query : List Nat) :
    (Response.redirect query).status = 500 ↔ Text.Utf8.decodeStrict? query = none := by
  unfold Response.redirect
  split <;> simp_all [Response.internal]

/-- The response to a path that is no route. -/
theorem effect_noRoute (hrouted : preflight? request = none)
    (hroute : Route.ofPath? request.target.path = none) :
    Effect around t request
      (reply t
        (if Route.redirects request.target.path then .redirect request.target.query else .notFound)) := by
  refine .keeps rfl (fun h500 => ?_) (fun hrequest => ?_) fun d s hrequest => ?_
  · by_cases hredirects : Route.redirects request.target.path
    · rw [if_pos hredirects] at h500
      exact .garbled ⟨hrouted, hroute, hredirects, (status_redirect _).mp h500⟩
    · rw [if_neg hredirects] at h500
      cases h500
  · cases hroute.symm.trans hrequest.2
  · cases hroute.symm.trans hrequest.2

theorem effect_answer (h : t.Sound) (around : Surroundings) (hrouted : preflight? request = none) :
    Effect around t request (answer around t request) := by
  unfold answer
  dsimp only
  split
  case h_1 hroute => exact effect_noRoute hrouted hroute
  case h_2 route hroute =>
    split
    case isTrue hmethod => exact effect_serveRoute h hroute hmethod
    case isFalse =>
      have hblames : Response.methodNotAllowed.Blames := by
        simp [Response.methodNotAllowed, Response.detail, Response.Blames]
      exact (Declines.reply hblames).effect

theorem status_preflight (around : Surroundings) (origin method : String) :
    (preflight around origin method).status ≠ 500 := by
  unfold preflight
  extract_lets unknown faults
  split <;> simp

/-- What is asked beforehand is asked with a method of its own. -/
theorem ne_post_of_preflight {asked : String × String} (h : preflight? request = some asked) :
    request.method ≠ .post := by
  unfold preflight? at h
  split at h
  case isTrue hoptions =>
    rw [hoptions]
    decide
  case isFalse => cases h

/-- **The effect of every request** on a sound table. -/
theorem effect_serve (h : t.Sound) (around : Surroundings) (request : Request) :
    Effect around t request (serve around t request) := by
  unfold serve
  split
  case h_1 origin method hpreflight =>
    exact Keeps.effect_of_method (.reply (status_preflight around origin method))
      (ne_post_of_preflight hpreflight)
  case h_2 hrouted =>
    have heffect := effect_answer h around hrouted
    dsimp only
    split
    case isFalse => exact heffect
    case isTrue hhead =>
      -- Without its body the response to `HEAD` is still one that leaves the table alone.
      have hmethod : request.method ≠ .post := by
        rw [hhead]
        decide
      generalize answer around t request = served at heffect ⊢
      cases heffect with
      | keeps htable hfault =>
        exact .keeps htable hfault (fun hrequest => absurd hrequest.1 hmethod)
          fun _ _ hrequest => absurd hrequest.1 hmethod
      | registers hrequest => exact absurd hrequest.1 hmethod
      | decides hrequest => exact absurd hrequest.1 hmethod

/-- A request leaves a sound table sound. -/
theorem Effect.sound (h : Effect around t request served) (hsound : t.Sound) : served.table.Sound := by
  cases h with
  | keeps htable => exact htable ▸ hsound
  | registers _ hfree => exact hsound.add hfree
  | decides => exact hsound.ruled

/-- The service is at fault only if the request is hampered. -/
theorem Effect.hampers (h : Effect around t request served) (h500 : served.response.status = 500) :
    around.Hampers request := by
  cases h with
  | keeps _ hfault => exact hfault h500
  | registers => cases h500
  | decides => cases h500

/-- A redirect that cannot take the query along is a fault of the service, whatever the table. -/
theorem status_of_garbled (h : request.Garbled) (around : Surroundings) (t : Table) :
    (serve around t request).response.status = 500 := by
  have hanswer : (answer around t request).response.status = 500 := by
    rw [answer, h.noRoute]
    dsimp only
    rw [if_pos h.redirects]
    exact (status_redirect _).mpr h.query
  rw [serve, h.routed]
  dsimp only
  split <;> exact hanswer

end Service

end SchemaRegistry
