import SchemaRegistry.Failure
import SchemaRegistry.Number.Numeral
import SchemaRegistry.Text.Digits
import SchemaRegistry.Text.Split
import SchemaRegistry.Web.Query

/-!
# Addresses

A client names what it wants by an address, `scheme://authority/path?query#fragment`. An address without a
scheme or without a host is taken relative to the service, and so is its path. The segments `.` and `..` of a
path are resolved, and a path is percent-decoded twice: by the client and by the service.
-/

namespace SchemaRegistry

/-- Why an address cannot be used. -/
inductive AddressFault where
  | tooLong
  /-- A character without a glyph, and the number of characters before it. -/
  | hidden (c : Char) (position : Nat)
  /-- A host is followed by a path that does not begin with a slash. -/
  | noSlash
  /-- A path alone begins with two slashes. -/
  | doubleSlash
  /-- A path alone begins with a colon. -/
  | colon
  | port (text : String)
  | host (text : String)
  /-- A scheme for which there is no way to connect. -/
  | scheme (text : String)
deriving DecidableEq, Repr

namespace AddressFault

/-- The wording of a fault. -/
def message : AddressFault → String
  | tooLong => "URL too long"
  | hidden c position =>
    "Invalid non-printable ASCII character in URL, " ++ Text.quoted c.toString ++ " at position " ++
      toString position ++ "."
  | noSlash => "For absolute URLs, path must be empty or begin with '/'"
  | doubleSlash => "Relative URLs cannot have a path starting with '//'"
  | colon => "Relative URLs cannot have a path starting with ':'"
  | port text => "Invalid port: " ++ Text.quoted text
  | host text => "Invalid IPv4 address: " ++ Text.quoted text
  | scheme text => text

/-- The failure that a fault is. -/
def failure (fault : AddressFault) : Failure :=
  match fault with
  | scheme _ => .raised "KeyError" (Text.quoted fault.message)
  | _ => .raised "InvalidURL" fault.message

end AddressFault

/-- The parts of an address. An absent part is empty, but an address may have an empty query. -/
structure Address where
  scheme : List Char
  authority : List Char
  path : List Char
  query : Option (List Char)
deriving DecidableEq, Repr

/-- The parts of an authority. -/
structure Authority where
  user : List Char
  host : List Char
  port : List Char
deriving DecidableEq, Repr

namespace Authority

/-- Takes an authority apart: the user before the last `@`, the host, which may stand in brackets, and the
port after a colon. -/
def ofChars (cs : List Char) : Authority :=
  let afterUser := (cs.reverse.takeWhile (· != '@')).reverse
  let user := cs.take (cs.length - afterUser.length - 1)
  let bracketed := (afterUser.reverse.dropWhile (· != ']')).reverse
  let host :=
    if afterUser.head? = some '[' ∧ bracketed ≠ [] then bracketed else afterUser.takeWhile (· != ':')
  let port :=
    match afterUser.drop host.length with
    | ':' :: port => port
    | port => port
  ⟨user, host, port⟩

/-- The host has the look of four numbers with one character between two of them. -/
def looksNumeric (host : List Char) : Bool :=
  let runs := Text.splitOn '.' (host.map fun c => if Number.isDigit c then c else '.')
  let inner := (runs.map fun run => (run.length - 1) / 2).foldl (· + ·) 0
  runs.all (!·.isEmpty) && runs.length ≤ 4 && 4 ≤ runs.length + inner

/-- The text is one of the four numbers of a numeric host. -/
def isOctet (cs : List Char) : Bool :=
  !cs.isEmpty && cs.length ≤ 3 && cs.all Number.isDigit && Number.digitsValue cs ≤ 255 &&
    (cs.length = 1 || cs.head? != some '0')

/-- Checks the host and the port. -/
def check (a : Authority) : Except AddressFault Unit :=
  let octets := Text.splitOn '.' a.host
  if looksNumeric a.host && !(octets.length = 4 && octets.all isOctet) then
    .error (.host (String.ofList a.host))
  else if a.port.isEmpty then .ok ()
  else
    match Text.readInt (String.ofList a.port) with
    | .ok _ => .ok ()
    | .error _ => .error (.port (String.ofList a.port))

/-- No part is there. -/
def isEmpty (a : Authority) : Bool := a.user.isEmpty && a.host.isEmpty && a.port.isEmpty

end Authority

namespace Address

/-- The greatest length of an address. -/
def maxLength : Nat := 65536

/-- The character has no glyph. -/
def isHidden (c : Char) : Bool := c.toNat < 0x20 || c.toNat == 0x7F

/-- The character may stand in a scheme. -/
def isSchemeChar (c : Char) : Bool := c.isAlphanum || c == '+' || c == '.' || c == '-'

/-- Splits off the scheme and its colon. -/
def splitScheme (cs : List Char) : List Char × List Char :=
  let name := cs.takeWhile isSchemeChar
  match cs.drop name.length with
  | ':' :: rest => if name.head?.all Char.isAlpha then (name, rest) else ([], cs)
  | _ => ([], cs)

/-- Takes an address apart. The fragment is dropped. -/
def ofChars (cs : List Char) : Address :=
  let (scheme, rest) := splitScheme cs
  let (authority, rest) :=
    match rest with
    | '/' :: '/' :: rest =>
      let authority := rest.takeWhile fun c => c != '/' && c != '?' && c != '#'
      (authority, rest.drop authority.length)
    | rest => ([], rest)
  let path := rest.takeWhile fun c => c != '?' && c != '#'
  let query :=
    match rest.drop path.length with
    | '?' :: rest => some (rest.takeWhile (· != '#'))
    | _ => none
  ⟨scheme.map Char.toLower, authority, path, query⟩

/-- Checks the path beside the parts before it. -/
def checkPath (scheme : List Char) (authority : Authority) (path : List Char) : Except AddressFault Unit :=
  if !authority.isEmpty && !path.isEmpty && path.head? != some '/' then .error .noSlash
  else if scheme.isEmpty && authority.isEmpty then
    if ['/', '/'].isPrefixOf path then .error .doubleSlash
    else if path.head? = some ':' then .error .colon
    else .ok ()
  else .ok ()

/-- Reads an address. -/
def read (text : String) : Except AddressFault Address :=
  let cs := text.toList
  if maxLength < cs.length then .error .tooLong
  else
    match cs.find? isHidden with
    | some c => .error (.hidden c (cs.takeWhile (!isHidden ·)).length)
    | none =>
      let address := ofChars cs
      let authority := Authority.ofChars address.authority
      match authority.check with
      | .error fault => .error fault
      | .ok () =>
        match checkPath address.scheme authority address.path with
        | .error fault => .error fault
        | .ok () => .ok address

/-- Resolves the segments `.` and `..`, given the segments before, which are reversed. -/
def resolve (before : List (List Char)) : List (List Char) → List (List Char)
  | [] => before.reverse
  | segment :: rest =>
    if segment = ['.'] then resolve before rest
    else if segment = ['.', '.'] then resolve (if before = [[]] then before else before.drop 1) rest
    else resolve (segment :: before) rest

/-- The path without the segments `.` and `..`. -/
def plainPath (path : List Char) : List Char := ['/'].intercalate (resolve [] (Text.splitOn '/' path))

/-- Whether the address says where the service is. -/
def isAbsolute (a : Address) : Bool :=
  !a.scheme.isEmpty && !(Authority.ofChars a.authority).host.isEmpty

/-- The schemes for which there is a way to connect. -/
def schemes : List String := ["http", "https", "ws", "wss"]

/-- The path at the service. -/
def servedPath (a : Address) : Except AddressFault (List Char) :=
  if a.isAbsolute then
    if schemes.contains (String.ofList a.scheme) then
      .ok (plainPath (if a.path.isEmpty then ['/'] else a.path))
    else .error (.scheme (String.ofList a.scheme))
  else .ok (plainPath ('/' :: a.path.dropWhile (· == '/')))

end Address

/-- What an address asks the service for: a decoded path and the bytes of a query, as they are sent. -/
structure Target where
  path : List Char
  query : List Nat
deriving DecidableEq, Repr

/-- What an address asks for. Parameters that are given beside the address take the place of its own. -/
def Target.ofAddress (address : String) (query : Option (List (String × String))) :
    Except AddressFault Target :=
  match Address.read address with
  | .error fault => .error fault
  | .ok address =>
    match address.servedPath with
    | .error fault => .error fault
    | .ok path =>
      .ok
        { path := Percent.decode (Percent.decode (if path.isEmpty then ['/'] else path))
          query :=
            match query with
            | some parameters => Query.ofParameters parameters
            | none => Query.ofAddress (address.query.getD []) }

end SchemaRegistry
