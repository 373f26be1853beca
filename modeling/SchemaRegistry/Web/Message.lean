import SchemaRegistry.Text.Blank
import SchemaRegistry.Text.Case
import SchemaRegistry.Text.Encoding
import SchemaRegistry.Web.Address

/-!
# Requests and responses

A request has a method, a target and perhaps a body; a response has a status and perhaps a body.
The body of a request is JSON if its content type says so, otherwise it is just bytes. A browser that acts for a
site names it as the origin of the request, and may ask beforehand whether a method is allowed.
-/

namespace SchemaRegistry

/-- The method of a request, as it is sent. -/
structure Method where
  text : String
deriving DecidableEq, Repr

namespace Method

/-- The method that a client sends for a name: in capitals. -/
def ofName (name : String) : Method := ⟨Text.upper name⟩

instance : Coe String Method := ⟨ofName⟩

def get : Method := ⟨"GET"⟩

def head : Method := ⟨"HEAD"⟩

def post : Method := ⟨"POST"⟩

def options : Method := ⟨"OPTIONS"⟩

end Method

/-- The body of a request. `json` is the text of a value. -/
inductive Body where
  | absent
  | json (value : Json)
  | raw (text : String) (contentType : String)

/-- A request to the service. -/
structure Request where
  method : Method
  target : Target
  body : Body
  /-- The site that a browser acts for. -/
  origin : Option String := none
  /-- The method that a browser asks for before it sends the request that it means to send. -/
  requestedMethod : Option String := none

/-- An answer of the service. -/
structure Response where
  status : Nat
  body : Json
deriving Repr

/-- What a body holds. -/
inductive Payload where
  | absent
  /-- Something that is not JSON, and does not claim to be. -/
  | bytes
  | json (value : Json)

/-- Why a body cannot be read. -/
inductive BodyFault where
  /-- The text stops being JSON at an offset. -/
  | notJson (offset : Nat)
  | unreadable
deriving DecidableEq, Repr

namespace Body

/-- The media type of a content type: what stands before its parameters, in small letters. -/
def mediaType (contentType : String) : List Char :=
  Text.trimList Text.isSpace ((contentType.toList.takeWhile (· != ';')).map Char.toLower)

/-- The content type is that of JSON. -/
def isJsonType (contentType : String) : Bool :=
  let media := mediaType contentType
  let main := media.takeWhile (· != '/')
  let sub := media.drop (main.length + 1)
  main == "application".toList && media.count '/' == 1 &&
    (sub == "json".toList || "+json".toList.isSuffixOf sub)

/-- Reads the text of a body as JSON, in the encoding that its bytes have the look of, on a stack with less room by
`stack` arrays and objects. -/
def readJson (stack : Nat) (text : String) : Except BodyFault Payload :=
  let bytes := text.toList.flatMap Text.Utf8.encode
  match (Text.Encoding.guess bytes).decode? bytes with
  | none => .error .unreadable
  | some cs =>
    match Json.readListAt stack cs with
    | .ok value => .ok (.json value)
    | .error fault =>
      match Failure.ofJson fault with
      | .notJson => .error (.notJson fault.offset)
      | _ => .error .unreadable

/-- Reads a body. The text of a value is read as that value, within the limits of the reader. -/
def read (stack : Nat) : Body → Except BodyFault Payload
  | absent => .ok .absent
  | json value =>
    if value.fits (Json.maxDepth - stack) then .ok (.json value) else .error .unreadable
  | raw text contentType =>
    if text.isEmpty then .ok .absent
    else if isJsonType contentType then readJson stack text
    else .ok .bytes

end Body

/-- The step from a request to its body. -/
def Step.body : Step := .name "body"

/-- Checks what a body holds, as a part of the request. Nothing at all, like `null`, is missing. -/
def Payload.check {α : Type} (model : Model) (check : Json → Checked α) (payload : Payload) : Checked α :=
  Checked.under .body <|
    match payload with
    | absent => .refuse .missing
    | json .null => .refuse .missing
    | json value => check value
    | bytes => .refuse (.notRecord model)

namespace Refusal

/-- The place as a client is told it: the steps with dots between them, except that to the body. -/
def field (r : Refusal) : String := ".".intercalate ((r.place.filter (· ≠ .body)).map Step.text)

/-- What a client is told about a refusal. -/
def entry (r : Refusal) : Json :=
  .obj
    [("field", .str r.field),
     ("message", .str (r.cause.message .request)),
     ("type", .str (r.cause.kind .request))]

end Refusal

namespace Response

/-- The response to refusals. -/
def refused (why : List Refusal) : Response :=
  ⟨422, ErrorReport.envelope "VALIDATION_ERROR" (.str "Request validation failed.")
    (.obj [("errors", .arr (why.map Refusal.entry))])⟩

/-- The response to a fault of the service itself. -/
def internal : Response :=
  ⟨500, ErrorReport.envelope "INTERNAL_ERROR" (.str "An unexpected error occurred.") .null⟩

/-- The response to a failure: errors of the service have a status of their own. -/
def failed : Failure → Response
  | .service error => ⟨error.status, error.body⟩
  | _ => internal

/-- A response that the router gives by itself. -/
def detail (status : Nat) (text : String) : Response := ⟨status, .obj [("detail", .str text)]⟩

/-- The response to a path that is no route. -/
def notFound : Response := detail 404 "Not Found"

/-- The response to a method that a route does not answer to. -/
def methodNotAllowed : Response := detail 405 "Method Not Allowed"

/-- The response that leads to another path with the same query. The query has to be a text for that. -/
def redirect (query : List Nat) : Response :=
  match Text.Utf8.decodeStrict? query with
  | some _ => ⟨307, .null⟩
  | none => internal

/-- The response to a body that cannot be read. -/
def unreadable : Response := detail 400 "There was an error parsing the body"

/-- The response to a body with a fault. -/
def badBody : BodyFault → Response
  | .notJson offset => refused [⟨[.body, .index offset], .notJson "JSON decode error"⟩]
  | .unreadable => unreadable

/-- The response to an operation with this answer. -/
def answering {α : Type} (status : Nat) (encode : α → Json) : Except Failure α → Response
  | .ok value => ⟨status, encode value⟩
  | .error e => failed e

end Response

end SchemaRegistry
