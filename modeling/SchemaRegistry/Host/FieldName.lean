import SchemaRegistry.Host.Field
import SchemaRegistry.Host.Member

/-!
# Names of fields

The fields of a host type go by the keys of its annotations. A key is asked whether it begins with an underscore
before it is taken for a name. Texts can be asked, and few other values: asking any other value fails. Not every
text that can be asked is a name of a field.
-/

namespace SchemaRegistry

/-- The key of an annotation as the name of a field. -/
inductive FieldName where
  /-- A text, perhaps with halves of characters. -/
  | text (name : LooseText)
  /-- No text, but a value that says of itself that it begins with no underscore. -/
  | noText
  /-- A value that cannot be asked what it begins with. -/
  | odd (exception : ExceptionClass) (message : String)
deriving DecidableEq, Repr

namespace FieldName

instance : Coe String FieldName := ⟨fun name => text name⟩

/-- The member that tells what a value begins with. -/
def startMember : String := "startswith"

/-- The failure of a value that tells what it begins with, but not by a text. -/
def misasked (key : Hint) : String :=
  match key with
  | .cls .. | .submodel .. => "startswith() takes at least 1 argument (0 given)"
  | key => "startswith first arg must be " ++ key.typeName ++ " or a tuple of " ++ key.typeName ++ ", not str"

/-- The key of an annotation as a name. -/
def ofKey (u : Universe) : AnnotationKey → FieldName
  | .text name => text name
  | .value key =>
    match u.memberAt key startMember with
    | .ok (.function _) => noText
    | .ok _ => odd "TypeError" (misasked key)
    | .error e => odd e.exception e.message

/-- The name does not begin with an underscore. What cannot be asked is not passed over either. -/
def isPublic : FieldName → Bool
  | text name => name.first? != some '_'
  | noText | odd .. => true

/-- The text that the name is, if it is one. -/
def text? : FieldName → Option String
  | text name => name.text?
  | noText | odd .. => none

end FieldName

namespace HostField

/-- The field of a name and a category. The name has to be one. -/
def ofName (category : Category) : FieldName → Except Failure HostField
  | .text name =>
    ((⟨·, category⟩) <$> (Checked.bounded fieldNameLimits (.ofLoose name)).under (.name "name")).run
  | .noText => .error (.refused [⟨[.name "name"], .notText⟩])
  | .odd exception message => .error (.raised exception message)

end HostField

end SchemaRegistry
