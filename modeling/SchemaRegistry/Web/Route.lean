import SchemaRegistry.Schema.Lifecycle
import SchemaRegistry.Text.Split
import SchemaRegistry.Web.Message

/-!
# Routes

The service answers at `/health`, at `/schemas`, at `/schemas/{namespace}/{schema_name}/{version}` and, below
that, at `approve`, `reject` and `validate`. A path is decoded before it is split at its slashes, and no
segment of a key is empty. Four more paths lead to pages about the service itself.
-/

namespace SchemaRegistry

/-- The three parts of a key as they stand in a path. -/
structure KeySegments where
  space : String
  name : String
  version : String
deriving DecidableEq, Repr

/-- A page about the service itself. -/
inductive Page where
  /-- The description of the service for programs. -/
  | openApi
  | docs
  /-- The page to which a browser comes back when someone has signed in from the docs. -/
  | signedIn
  | redoc
deriving DecidableEq, Repr

/-- A place at which the service answers. -/
inductive Route where
  | page (p : Page)
  | health
  | schemas
  | schema (segments : KeySegments)
  | decision (d : Decision) (segments : KeySegments)
  | validation (segments : KeySegments)
deriving DecidableEq, Repr

namespace Route

/-- The last segment of a path is the word; one line end after it is overlooked. -/
def endsWith (word : String) (segment : List Char) : Bool :=
  segment == word.toList || segment == word.toList ++ ['\n']

/-- The parts of a key, none of which is empty. -/
def segments? (space name version : List Char) : Option KeySegments :=
  if space.isEmpty || name.isEmpty || version.isEmpty then none
  else some ⟨String.ofList space, String.ofList name, String.ofList version⟩

/-- The route of the segments of a path, the first of which is what stands before the first slash. -/
def ofSegments? : List (List Char) → Option Route
  | [[], word] =>
    if endsWith "health" word then some health
    else if endsWith "schemas" word then some schemas
    else if endsWith "openapi.json" word then some (page .openApi)
    else if endsWith "docs" word then some (page .docs)
    else if endsWith "redoc" word then some (page .redoc)
    else none
  | [[], root, word] =>
    if root = "docs".toList ∧ endsWith "oauth2-redirect" word then some (page .signedIn) else none
  | [[], root, space, name, version] =>
    if root = "schemas".toList then (segments? space name version).map schema else none
  | [[], root, space, name, version, verb] =>
    if root = "schemas".toList then
      (segments? space name version).bind fun key =>
        if endsWith "approve" verb then some (decision .approve key)
        else if endsWith "reject" verb then some (decision .reject key)
        else if endsWith "validate" verb then some (validation key)
        else none
    else none
  | _ => none

/-- The route of a decoded path. -/
def ofPath? (path : List Char) : Option Route := ofSegments? (Text.splitOn '/' path)

/-- The methods to which a route answers. -/
def methods : Route → List Method
  | page _ => [.get, .head]
  | health => [.get]
  | schemas => [.get, .post]
  | schema _ => [.get]
  | decision .. => [.post]
  | validation _ => [.post]

/-- The path with its slashes at the end removed, or with one added if it has none. -/
def toggleSlash (path : List Char) : List Char :=
  if path.getLast? = some '/' then (path.reverse.dropWhile (· == '/')).reverse else path ++ ['/']

/-- A path that is no route leads to one that differs only in slashes at the end. -/
def redirects (path : List Char) : Bool := path != ['/'] && (ofPath? (toggleSlash path)).isSome

end Route

end SchemaRegistry
