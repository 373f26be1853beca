import SchemaRegistry.Host.Member
import SchemaRegistry.Host.Operator

/-!
# Evaluating written hints

The value of an expression in a scope. A name is looked up in the class that the text belongs to, then in its
module, then among the names that are known everywhere. Every failure of a part is the failure of the whole;
a part that is not needed, such as the other side of a choice, cannot fail.
-/

namespace SchemaRegistry

/-- Where the names of an expression are looked up. -/
structure Scope where
  classes : Universe
  /-- The names of the class. -/
  own : List (String × Hint)
  /-- The names that its module was given. -/
  shared : List (String × Hint)
  /-- The module, if it has further names. -/
  home : Option String

namespace Scope

/-- The hint that a name stands for. -/
def lookup? (s : Scope) (name : String) : Option Hint :=
  (((s.own.lookup name).orElse fun _ => s.shared.lookup name).orElse fun _ =>
    s.home.bind fun home => Catalogue.moduleMember? home name).orElse fun _ => Catalogue.builtIn? name

/-- The failure of a name that stands for nothing. -/
def undefined (name : String) : Failure := .raised "NameError" ("name '" ++ name ++ "' is not defined")

/-- The hint of a name, or the failure that there is none. -/
def lookup (s : Scope) (name : String) : Except Failure Hint :=
  match s.lookup? name with
  | some h => .ok h
  | none => .error (undefined name)

end Scope

namespace Hint

/-! ## Parts of values -/

/-- The values that a value consists of. -/
def items? : Hint → Option (List Hint)
  | sequence items | tuple items | set items => some items
  | dict entries => some (entries.filterMap fun | tuple (key :: _) => some key | _ => none)
  | h => h.text?.map characters

/-- The values of a value that is spread out. -/
def spreadItems (h : Hint) : Except Failure (List Hint) :=
  match h.items? with
  | some items => .ok items
  | none => .error (.ofType ("Value after * must be an iterable, not " ++ h.typeName))

/-- The entries of a table that is spread out. -/
def spreadEntries : Hint → Except Failure (List Hint)
  | dict entries => .ok entries
  | h => .error (.ofType (Text.quoted h.typeName ++ " object is not a mapping"))

/-- A set of some values. -/
def setOf (items : List Hint) : Except Failure Hint :=
  match unhashableIn? items with
  | some typeName => .error (.unhashableType typeName)
  | none => .ok (set (distinct items))

/-- Enters a value under a key: the key keeps its place. -/
def putEntry (entries : List Hint) (key value : Hint) : List Hint :=
  let isKey (entry : Hint) : Bool := match entry with | tuple (k :: _) => k.same key | _ => false
  if entries.any isKey then
    entries.map fun entry =>
      match entry with
      | tuple [k, old] => tuple [k, if k.same key then value else old]
      | entry => entry
  else entries ++ [tuple [key, value]]

/-- A table of some entries: a later entry of a key counts. -/
def dictOf (entries : List Hint) : Except Failure Hint :=
  let keys := entries.filterMap fun | tuple (key :: _) => some key | _ => none
  match unhashableIn? keys with
  | some typeName => .error (.unhashableType typeName)
  | none =>
    .ok (dict (entries.foldl (fun known entry =>
      match entry with
      | tuple [key, value] => putEntry known key value
      | _ => known) []))

end Hint

/-! ## Calls -/

namespace Universe

open Hint

/-- What a class makes of nothing. -/
def emptyValues : List (String × Hint) := [
  ("list", .sequence []), ("tuple", .tuple []), ("dict", .dict []), ("set", .set []), ("str", .text ""),
  ("int", .whole 0), ("bool", .flag false), ("NoneType", .nothing)]

/-- Modules with classes that take arguments to make instances. -/
def argumentHomes : List String := ["builtins", "collections", "typing"]

/-- The class takes no arguments to make an instance. -/
def takesNothing (u : Universe) (c : ClassRef) : Bool :=
  match u.find? c.id with
  | some found =>
    found.layout == ClassRef.objectId && found.record.isNone &&
      (c.maker == .ordinary || c.maker == .abstract) &&
      (u.member? c "__init__").isNone && (u.member? c "__new__").isNone &&
      (u.row found.lineage).all fun a =>
        a.ref.isTop || !argumentHomes.contains ((a.moduleName.text?).getD "")
  | none => false

/-- An instance of a class. -/
def instanceOf (u : Universe) (c : ClassRef) (args : List Hint) : Except Failure Hint :=
  if args.isEmpty then .ok ((emptyValues.lookup c.shown).getD (ofType c.typeName))
  else if u.takesNothing c then .error (.ofType (c.name ++ "() takes no arguments"))
  else .ok (ofType c.typeName)

/-- The member of an enumeration with a value. -/
def memberByValue (u : Universe) (c : ClassRef) (args : List Hint) : Except Failure Hint :=
  match args with
  | [] => .error (.ofType "EnumType.__call__() missing 1 required positional argument: 'value'")
  | h :: _ =>
    match (u.enumerated c).find? fun (_, value) => value.same h with
    | some (name, value) => .ok (memberOf c name value)
    | none => .error (.raised "ValueError" (h.display ++ " is not a valid " ++ c.name))

/-- The places of some parts in a row, of one to three arguments. -/
def sliceOf : List Hint → Except Failure Hint
  | [stop] => .ok (.slice .nothing stop .nothing)
  | [start, stop] => .ok (.slice start stop .nothing)
  | [start, stop, step] => .ok (.slice start stop step)
  | [] => .error (.ofType "slice expected at least 1 argument, got 0")
  | args => .error (.ofType ("slice expected at most 3 arguments, got " ++ toString args.length))

/-- Names of hints that make no instances; their classes do. -/
def abstractNames : List String := ["List", "Dict", "Set", "FrozenSet", "Tuple", "Type"]

/-- What a call of a class results in. -/
def classCall (u : Universe) (c : ClassRef) (args : List Hint) : Except Failure Hint :=
  if c.shown = "type" then
    match args with
    | [h] => .ok (classOf h)
    | [_, _, _] => .ok (ofType "type")
    | _ => .error (.ofType "type() takes 1 or 3 arguments")
  else if c.id = ClassRef.anyId then .error (.ofType "Any cannot be instantiated")
  else if c.maker = .enumeration then u.memberByValue c args
  else if c.shown = "slice" then sliceOf args
  else u.instanceOf c args

/-- What a call of a value results in. -/
def call (u : Universe) (head : Hint) (args : List Hint) : Except Failure Hint :=
  match head with
  | .cls c _ | .submodel c _ _ | .applied c _ _ | .filled none c _ | .annotated (.cls c _) _ => u.classCall c args
  | .named name c | .filled (some name) c _ =>
    if abstractNames.contains name then
      .error (.ofType ("Type " ++ name ++ " cannot be instantiated; use " ++ c.name ++ "() instead"))
    else u.instanceOf c args
  | .form f | .formed f _ => .error (.ofType ("Cannot instantiate " ++ (Hint.form f).display))
  | .union false _ => .error (.ofType ("Cannot instantiate " ++ (Hint.form .union).display))
  | .literal _ => .error (.ofType ("Cannot instantiate " ++ (Hint.form .literal).display))
  | .newType .. =>
    match args with
    | [h] => .ok h
    | args =>
      .error (.ofType ("_typing._idfunc() takes exactly one argument (" ++ toString args.length ++ " given)"))
  | .function _ => .ok .nothing
  | .other "builtin_function_or_method" _ => .ok (ofType "object")
  | h => .error (.ofType (Text.quoted h.typeName ++ " object is not callable"))

end Universe

/-! ## Expressions -/

namespace Expression

mutual

/-- The value of an expression. -/
def value (s : Scope) : Expression → Except Failure Hint
  | constant value => .ok value.hint
  | name n => s.lookup n
  | member of n => do s.classes.memberAt (← value s of) n
  | item of key => do
    let h ← value s of
    s.classes.item h (← value s key)
  | call head args => do
    let h ← value s head
    s.classes.call h (← values s args)
  | unary sign of => do Hint.negated sign (← value s of)
  | binary sign left right => do
    let a ← value s left
    Hint.combined sign a (← value s right)
  | comparison first signs operands => do
    chained s (← value s first) signs operands
  | junction both left right => do
    let a ← value s left
    if a.isTrue = both then value s right else return a
  | choice yes condition no => do
    if (← value s condition).isTrue then value s yes else value s no
  | tuple items => do return .tuple (← values s items)
  | sequence items => do return .sequence (← values s items)
  | set items => do Hint.setOf (← values s items)
  | dict entries => do Hint.dictOf (← entriesOf s entries)
  | spread of | named _ of | bound _ of => value s of
  | function => .ok (.function "<lambda>")
  | comprehension typeName source => do
    let h ← value s source
    match h.items?, h with
    | none, .other .. | some _, _ => return Hint.ofType typeName
    | none, h => throw (.notIterable h.typeName)
  | slice start stop step => do
    let start ← value s start
    let stop ← value s stop
    return .slice start stop (← value s step)
  | misplaced .. => .ok .nothing

/-- The values of several expressions, those of values spread out among them. -/
def values (s : Scope) : List Expression → Except Failure (List Hint)
  | [] => .ok []
  | spread of :: rest => do
    let items ← (← value s of).spreadItems
    return items ++ (← values s rest)
  | e :: rest => do
    let h ← value s e
    return h :: (← values s rest)

/-- The entries of a table, those of tables spread out among them. -/
def entriesOf (s : Scope) : List Expression → Except Failure (List Hint)
  | [] => .ok []
  | spread of :: rest => do
    let entries ← (← value s of).spreadEntries
    return entries ++ (← entriesOf s rest)
  | e :: rest => do
    let h ← value s e
    return h :: (← entriesOf s rest)

/-- The value of a row of comparisons: the first that does not hold ends it. -/
def chained (s : Scope) (left : Hint) (signs : List String) : List Expression → Except Failure Hint
  | [] => .ok left
  | operand :: rest => do
    let right ← value s operand
    let holds ← Hint.compared (signs.headD "==") left right
    if holds && !rest.isEmpty then chained s right signs.tail rest else return .flag holds

end

end Expression

/-- The value of a text in a scope. -/
def Scope.read (s : Scope) (text : String) : Except Failure Hint :=
  match Written.read text with
  | .ok e => e.value s
  | .error fault => .error (.raised fault.kind fault.message)

end SchemaRegistry
