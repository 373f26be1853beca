import SchemaRegistry.Host.Evaluation

/-!
# Declared classes

A workspace holds all classes and knows which of them were declared in which module and by what name. The
texts among the annotations of a class are evaluated there: in the scope of the class, and by the evaluator of the
workspace.

The evaluator is `Scope.read` unless another one is given. That one calls no functions, makes no values from those of a
source and fills in no texts: of what these come to it knows the type only. Results about host types do not rest on it;
they hold for any evaluator.
-/

namespace SchemaRegistry

/-- A class as its module knows it. -/
structure ModuleClass where
  /-- The name by which the module knows the class. -/
  name : String
  /-- The module in which the class is declared. -/
  home : String
  ref : ClassRef
deriving Repr

/-- All classes, the declared ones, the latest first, and how texts are evaluated. -/
structure Workspace where
  classes : Universe
  declared : List ModuleClass
  /-- What a text comes to in a scope. -/
  evaluator : Scope → String → Except Failure Hint

namespace Workspace

/-- The known classes and nothing else. -/
def initial (evaluator : Scope → String → Except Failure Hint := Scope.read) : Workspace :=
  ⟨Catalogue.known.classes, [], evaluator⟩

/-- The declared class of a name, the latest if there are several. -/
def declared? (w : Workspace) (name : String) : Option Hint :=
  (w.declared.find? fun d => d.name == name).map fun d => w.classes.hintOf d.ref

/-! ## Modules -/

/-- The names of the classes that are declared in a module. -/
def namesIn (w : Workspace) (home : String) : List (String × Hint) :=
  (w.declared.filter fun d => d.home == home).map fun d => (d.name, w.classes.hintOf d.ref)

/-- The names that every module of declared classes has. -/
def givenNames : List (String × Hint) :=
  Catalogue.marked ++ [("Any", Catalogue.classHint "typing.Any")]

/-- The names of the module of a class, and the module if it has further ones. -/
def moduleNames (w : Workspace) (moduleName : Hint) : List (String × Hint) × Option String :=
  let nowhere := ([], some Catalogue.readingModule)
  match moduleName.text? with
  | none | some "" => nowhere
  | some home =>
    if Catalogue.modules.contains home then (w.namesIn home, some home)
    else
      match w.namesIn home with
      | [] => nowhere
      | names => (names ++ givenNames, none)

/-! ## Scopes -/

/-- The member by which a class stands for another value whose names count. -/
def wrappedMember : String := "__wrapped__"

/-- The member that has the names of a module in place of those of the module. -/
def namesMember : String := "__globals__"

/-- The table of names that a value has, for a value that may stand for another one so many times. A function
has one that does not matter here. -/
def tableOf (w : Workspace) (h : Hint) : Nat → Option Hint
  | 0 => none
  | steps + 1 =>
    match h with
    | .cls c _ =>
      match w.classes.member? c wrappedMember with
      | some h => w.tableOf h steps
      | none => w.classes.member? c namesMember
    | .function _ => some (.dict [])
    | _ => none

/-- The value can be asked for its part under a key. -/
def hasParts : Hint → Bool
  | .sequence _ | .tuple _ | .text _ | .category _ | .applied .. | .named .. | .filled .. | .form _
  | .formed .. | .union .. | .literal _ | .annotated .. => true
  | .cls c _ => c.maker == .enumeration
  | _ => false

/-- The failure of a table of names that is none. -/
def notTable (h : Hint) : Failure :=
  .ofType ("globals must be a " ++
    if hasParts h then "real dict; try eval(expr, \x7b\x7d, mapping)" else "dict")

/-- The entries of a table that have names. -/
def namedEntries (entries : List Hint) : List (String × Hint) :=
  entries.filterMap fun
    | .tuple [key, value] => key.text?.map fun name => (name, value)
    | _ => none

/-- The scope of the texts of a class. -/
def scopeOf (w : Workspace) (c : HostClass) : Except Failure Scope :=
  let own := c.members ++ w.classes.bodyNames c
  let inModule (moduleName : Hint) : Scope :=
    let (shared, home) := w.moduleNames moduleName
    ⟨w.classes, own, shared, home⟩
  match w.tableOf (.cls c.ref none) (w.declared.length + 2) with
  | none => .ok (inModule c.moduleName)
  | some .nothing => .ok (inModule .nothing)
  | some (.dict entries) => .ok ⟨w.classes, own, namedEntries entries, none⟩
  | some h => .error (notTable h)

/-- The hint of an annotation of a class. A text is evaluated. -/
def evaluate (w : Workspace) (c : HostClass) : Annotation → Except Failure Hint
  | .hint h =>
    match h.text? with
    | some text => do w.evaluator (← w.scopeOf c) text
    | none => .ok h
  | .failing exception message => do
    let _ ← w.scopeOf c
    throw (.raised exception message)

end Workspace

end SchemaRegistry
