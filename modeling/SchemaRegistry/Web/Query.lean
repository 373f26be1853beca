import SchemaRegistry.Text.Split
import SchemaRegistry.Web.Percent

/-!
# Queries

A query is sent as bytes. A client encodes what is no visible character of ASCII, but the service takes whatever
bytes there are: to find the parameters it reads each byte as one character and decodes what is percent-encoded.
-/

namespace SchemaRegistry.Query

/-- The characters that a client encodes in a query. -/
def isEncoded (c : Char) : Bool :=
  c.toNat ≤ 0x20 || 0x7F ≤ c.toNat || c == '"' || c == '<' || c == '>'

/-- The bytes that a client sends for the query of an address. What is encoded already stays as it is. -/
def ofAddress (query : List Char) : List Nat :=
  (query.flatMap fun c =>
    if isEncoded c then (Text.Utf8.encode c).flatMap Percent.encodeByte else [c]).map Char.toNat

/-- The bytes that a client sends for parameters. -/
def ofParameters (parameters : List (String × String)) : List Nat :=
  let part : String × String → String := fun (name, value) => Percent.encode name ++ "=" ++ Percent.encode value
  ("&".intercalate (parameters.map part)).toList.map Char.toNat

/-- A name or a value as it is meant: a plus stands for a space. -/
def decode (cs : List Char) : String :=
  String.ofList (Percent.decode (cs.map fun c => if c = '+' then ' ' else c))

/-- The parameters that the bytes of a query name. A part without an equals sign has an empty value. -/
def parameters (query : List Nat) : List (String × String) :=
  ((Text.splitOn '&' (query.map Char.ofNat)).filter (!·.isEmpty)).map fun part =>
    let name := part.takeWhile (· != '=')
    (decode name, decode (part.drop (name.length + 1)))

end SchemaRegistry.Query
