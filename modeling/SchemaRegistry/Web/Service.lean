import SchemaRegistry.Registry.Operations
import SchemaRegistry.Web.Message
import SchemaRegistry.Web.Route

/-!
# The service

The registry over HTTP. Each request has a session of its own. A request is routed by its decoded path; then
its body is read, the segments of its key are looked at, the key is built, the body is checked, and last the
registry is asked. The first of these that fails decides the response, except that segments that are too long
and refusals of the body are reported together. Methods are compared as they are sent.
-/

namespace SchemaRegistry

/-- What serving a request leaves behind. -/
structure Served where
  response : Response
  table : Table
  logs : List LogRecord

/-- What the service knows when it serves a request. -/
structure Surroundings where
  now : Time.Reading
  /-- The database can be reached. -/
  online : Bool
  /-- The name of the environment, which the health check tells. -/
  environment : String := "development"
  /-- The sites that browsers may act for; a star is any site. -/
  origins : List String := ["*"]
  /-- The room that the stack has lost where bodies are read, in arrays and objects. -/
  stack : Nat := 19
  /-- What the framework shows as a page. -/
  shown : Page → Json := fun _ => .null

namespace Service

/-- A response that leaves the table alone. -/
def reply (t : Table) (response : Response) : Served := ⟨response, t, []⟩

/-! ## Checking requests -/

/-- The greatest length of a segment of a key. -/
def maxSegment : Nat := 128

/-- The refusal of a segment that is too long. -/
def segmentRefusals (name segment : String) : List Refusal :=
  if maxSegment < segment.length then [⟨[.name "path", .name name], .tooLong maxSegment⟩] else []

/-- The refusals of the segments of a key. -/
def pathRefusals (s : KeySegments) : List Refusal :=
  segmentRefusals "namespace" s.space ++ segmentRefusals "schema_name" s.name ++
    segmentRefusals "version" s.version

/-- The key that segments address, or the refusals of the request that come before its body. `payload` are
the refusals of the body. -/
def keyOf (s : KeySegments) (payload : List Refusal) : Except Response Key :=
  match pathRefusals s with
  | [] =>
    match Key.ofParts s.space s.name s.version with
    | .accepted k => .ok k
    | .refused why => .error (.refused why)
  | why => .error (.refused (why ++ payload))

/-- The value of a query parameter: the last one, if the parameter is repeated. -/
def parameter? (query : List (String × String)) (name : String) : Option String :=
  (query.reverse.find? fun (key, _) => key == name).map (·.2)

/-- The state that a query asks for, if it does. -/
def stateOf (query : List (String × String)) : Checked (Option State) :=
  match parameter? query "state" with
  | none => .accepted none
  | some word =>
    some <$> ((Checked.choice State (.str word)).under (.name "state")).under (.name "query")

/-! ## Handlers -/

/-- The registry is asked only if it can be reached. -/
def asking (around : Surroundings) (t : Table) (served : Served) : Served :=
  if around.online then served else reply t .internal

/-- The response to an operation of the registry. -/
def outcome {α : Type} (status : Nat) (encode : α → Json) (o : Outcome α) : Served :=
  ⟨.answering status encode o.answer, o.table, o.logs⟩

/-- Tells whether the service and its database are up. -/
def health (around : Surroundings) (t : Table) : Served :=
  reply t <|
    if around.online then
      ⟨200, .obj [("status", .str "ok"), ("db", .str "ok"), ("env", .str around.environment)]⟩
    else ⟨503, .obj [("status", .str "error"), ("db", .str "unreachable")]⟩

/-- Registers a schema. -/
def create (around : Surroundings) (t : Table) (payload : Payload) : Served :=
  match payload.check .registration Registration.check with
  | .refused why => reply t (.refused why)
  | .accepted r =>
    asking around t (outcome 201 Details.toJson (Registry.create ⟨t, []⟩ around.now .none r))

/-- Schemas as a list with their number. -/
def listing (ds : List Details) : Json :=
  .obj [("total", .int ds.length), ("items", .arr (ds.map Details.toJson))]

/-- Lists schemas. -/
def list (around : Surroundings) (t : Table) (query : List (String × String)) : Served :=
  match stateOf query with
  | .refused why => reply t (.refused why)
  | .accepted state =>
    asking around t
      (reply t (.answering 200 listing (Registry.list t (parameter? query "namespace") state)))

/-- Fetches a schema. -/
def get (around : Surroundings) (t : Table) (s : KeySegments) : Served :=
  match keyOf s [] with
  | .error response => reply t response
  | .ok k => asking around t (reply t (.answering 200 Details.toJson (Registry.get t k)))

/-- Decides on a schema. -/
def decide (around : Surroundings) (t : Table) (d : Decision) (s : KeySegments) (payload : Payload) :
    Served :=
  let change := payload.check .stateChange StateChange.check
  match keyOf s change.refusals with
  | .error response => reply t response
  | .ok k =>
    match change with
    | .refused why => reply t (.refused why)
    | .accepted change =>
      asking around t
        (outcome 200 Details.toJson
          (Registry.decide ⟨t, []⟩ around.now .none k d change.updatedBy.text))

/-- Judges a host type against a schema. -/
def validate (around : Surroundings) (t : Table) (s : KeySegments) (payload : Payload) : Served :=
  let hostType := payload.check .hostType HostType.check
  match keyOf s hostType.refusals with
  | .error response => reply t response
  | .ok k =>
    match hostType with
    | .refused why => reply t (.refused why)
    | .accepted hostType =>
      asking around t
        (outcome 200 Verdict.toJson (Registry.validate ⟨t, []⟩ k hostType.fields hostType.failFast))

/-- Serves a request that has a body. -/
def withBody (around : Surroundings) (t : Table) (body : Body) (serve : Payload → Served) : Served :=
  match body.read around.stack with
  | .error fault => reply t (.badBody fault)
  | .ok payload => serve payload

/-! ## Routing -/

/-- Serves a request at a route that answers to its method. -/
def serveRoute (around : Surroundings) (t : Table) (request : Request) : Route → Served
  | .page p => reply t ⟨200, around.shown p⟩
  | .health => health around t
  | .schemas =>
    if request.method = .get then list around t (Query.parameters request.target.query)
    else withBody around t request.body (create around t)
  | .schema s => get around t s
  | .decision d s => withBody around t request.body (decide around t d s)
  | .validation s => withBody around t request.body (validate around t s)

/-- Serves a request by its path. -/
def answer (around : Surroundings) (t : Table) (request : Request) : Served :=
  let path := request.target.path
  match Route.ofPath? path with
  | none => reply t (if Route.redirects path then .redirect request.target.query else .notFound)
  | some route =>
    if request.method ∈ route.methods then serveRoute around t request route
    else reply t .methodNotAllowed

/-- What is asked before a request is sent from a browser: a site and a method. -/
def preflight? (request : Request) : Option (String × String) :=
  if request.method = .options then
    request.origin.bind fun origin => request.requestedMethod.map (origin, ·)
  else none

/-- The methods that are allowed to any site that may call the service. -/
def allowedMethods : List String := ["DELETE", "GET", "HEAD", "OPTIONS", "PATCH", "POST", "PUT"]

/-- The answer to what a browser asks beforehand. -/
def preflight (around : Surroundings) (origin method : String) : Response :=
  let unknown := if around.origins.contains "*" || around.origins.contains origin then [] else ["origin"]
  let faults := unknown ++ if allowedMethods.contains method then [] else ["method"]
  if faults.isEmpty then ⟨200, .str "OK"⟩
  else ⟨400, .str ("Disallowed CORS " ++ ", ".intercalate faults)⟩

/-- Serves a request. What a browser asks beforehand is answered whatever the path is, and the response to `HEAD` has
no body. -/
def serve (around : Surroundings) (t : Table) (request : Request) : Served :=
  match preflight? request with
  | some (origin, method) => reply t (preflight around origin method)
  | none =>
    let served := answer around t request
    if request.method = .head then { served with response := { served.response with body := .null } }
    else served

end Service

end SchemaRegistry
