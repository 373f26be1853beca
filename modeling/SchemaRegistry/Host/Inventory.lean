import SchemaRegistry.Conformance.Check
import SchemaRegistry.Host.Form

/-!
# The fields of a host type

The fields of a class are read from its annotations and those of its ancestors, nearest first, and the
nearest annotation of a name counts. Names that begin with an underscore and variables of the class itself
are no fields. Classes of the language and of its frameworks have no fields that count.

All annotations of a class are evaluated before any is looked at, so one that cannot be evaluated fails the
whole host type.
-/

namespace SchemaRegistry

namespace Inventory

/-- The packages whose classes have no fields that count. -/
def frameworkPackages : List String := ["builtins", "abc", "typing", "enum", "pydantic"]

/-- The class belongs to a framework: so says the first part of its module's name, which has to be a text. -/
def isFramework (u : Universe) (c : HostClass) : Except Failure Bool :=
  match c.moduleName.text? with
  | some name => .ok (frameworkPackages.contains (String.ofList (name.toList.takeWhile (· != '.'))))
  | none => (u.memberAt c.moduleName "split").bind fun _ => .ok false

/-! ## Evaluating annotations -/

/-- The annotations of a class, which have to be a table or nothing. -/
def annotationsOf (c : HostClass) : Except Failure (List (AnnotationKey × Annotation)) :=
  match c.annotations with
  | .table entries => .ok entries
  | .misused .nothing => .ok []
  | .misused _ =>
    .error (.raised "ValueError" (c.ref.display ++ ".__annotations__ is neither a dict nor None"))

/-- Evaluates the annotations of a class, in order, up to the first that fails. -/
def hintsOf (w : Workspace) (c : HostClass) :
    List (AnnotationKey × Annotation) → Except Failure (List (FieldName × Hint))
  | [] => .ok []
  | (key, annotation) :: rest =>
    match w.evaluate c annotation with
    | .error e => .error e
    | .ok h =>
      match hintsOf w c rest with
      | .error e => .error e
      | .ok hints => .ok ((.ofKey w.classes key, h) :: hints)

/-- Exceptions that mean that the fields of the host type cannot be read. Others pass through. -/
def resolutionKinds : List String := ["NameError", "SyntaxError", "TypeError", "AttributeError"]

/-- The failure that a failing annotation amounts to for the host type of a name. -/
def failureOf (host : String) (e : Failure) : Failure :=
  if e.isAmong resolutionKinds then .service (.unresolvable host e.message) else e

/-! ## Collecting fields -/

/-- The fields read so far and the records of annotations that do not count. -/
structure Progress where
  fields : List HostField
  logs : List LogRecord

/-- A field of the name was read. -/
def Progress.has (p : Progress) (name : FieldName) : Bool := p.fields.any fun f => .text f.name.text == name

/-- The annotation of a name is not passed over: it is public and no class variable. A name that cannot be asked
whether it is public is not passed over in any case. -/
def isPublicField (name : FieldName) (h : Hint) : Bool :=
  match name with
  | .odd .. => true
  | name => name.isPublic && !h.isClassVar

/-- The record of an annotation that a nearer one hides. Only what is a text can be hidden. -/
def shadowed (host : String) (c : HostClass) (name : FieldName) : LogRecord :=
  ⟨.debug, .introspection,
    c.qualifiedName ++ "." ++ name.text?.getD "" ++ " shadowed by a subclass declaration of " ++ host⟩

/-- Takes the annotations of a class. -/
def takeHints (host : String) (c : HostClass) :
    Progress → List (FieldName × Hint) → Except Failure Unit × Progress
  | p, [] => (.ok (), p)
  | p, (name, h) :: rest =>
    if !isPublicField name h then takeHints host c p rest
    else if p.has name then
      takeHints host c { p with logs := p.logs ++ [shadowed host c name] } rest
    else
      match HostField.ofName h.inferred name with
      | .error e => (.error e, p)
      | .ok f => takeHints host c { p with fields := p.fields ++ [f] } rest

/-- Takes the annotations of a class that does not belong to a framework. -/
def takeClass (w : Workspace) (host : String) (p : Progress) (c : HostClass) :
    Except Failure Unit × Progress :=
  match (annotationsOf c).bind (hintsOf w c) with
  | .error e => (.error (failureOf host e), p)
  | .ok hints => takeHints host c p hints

/-- Takes the annotations of a row of classes, the nearest first. -/
def takeClasses (w : Workspace) (host : String) :
    Progress → List HostClass → Except Failure Unit × Progress
  | p, [] => (.ok (), p)
  | p, c :: rest =>
    match isFramework w.classes c with
    | .error e => (.error e, p)
    | .ok true => takeClasses w host p rest
    | .ok false =>
      match takeClass w host p c with
      | (.ok (), p) => takeClasses w host p rest
      | failed => failed

/-- The fields of a class, which is called `host`, and the records of hidden annotations. -/
def ofClass (w : Workspace) (host : String) (c : ClassRef) : Except Failure (List HostField) × List LogRecord :=
  match takeClasses w host ⟨[], []⟩ (w.classes.lineage c) with
  | (.ok (), p) => (.ok p.fields, p.logs)
  | (.error e, p) => (.error e, p.logs)

/-- What a class is called as a host type. -/
def hostName (w : Workspace) (c : ClassRef) : String :=
  ((w.classes.find? c.id).map (·.qualifiedName)).getD ""

/-- What a hint is called as a host type, and its class. It has none unless it is a class. A model with arguments is
a class too: it has a name of its own and the row of the model. -/
def host? (w : Workspace) : Hint → Option (String × ClassRef)
  | .cls c _ => some (hostName w c, c)
  | .submodel c _ _ => some (c.name, c)
  | _ => none

/-- The fields of a hint, which must be a class, and the records of hidden annotations. -/
def ofHint (w : Workspace) (h : Hint) : Except Failure (List HostField) × List LogRecord :=
  match host? w h with
  | some (host, c) => ofClass w host c
  | none => (.error (.service (.unresolvable h.display "not a class")), [])

end Inventory

namespace Conformance

/-- Judges the fields of a hint against a schema. The records of reading the fields come first. -/
def validateHint (schema : Details) (w : Workspace) (h : Hint) (failFast : Bool) :
    Except Failure Verdict × List LogRecord :=
  match Inventory.ofHint w h with
  | (.ok fields, logs) =>
    let (verdict, more) := validate schema fields failFast
    (.ok verdict, logs ++ more)
  | (.error e, logs) => (.error e, logs)

end Conformance

end SchemaRegistry
