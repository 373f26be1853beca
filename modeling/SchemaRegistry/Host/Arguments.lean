import SchemaRegistry.Host.Catalogue

/-!
# Hints with arguments

What stands behind a hint in square brackets: the arguments of a class or of a special form, the hints that
take the place of variables, the name of a member of an enumeration, the index of a part of a value.
`Universe.item` answers with the hint that results.
-/

namespace SchemaRegistry

namespace Hint

/-- The parts of what stands in brackets: several if there are commas. -/
def keyParts : Hint → List Hint
  | tuple items => items
  | key => [key]

/-! ## Counting -/

/-- The failure of too many or too few arguments. -/
def miscounted (shown : String) (actual expected : Nat) : Failure :=
  .ofType ("Too " ++ (if expected < actual then "many" else "few") ++ " arguments for " ++ shown ++
    "; actual " ++ toString actual ++ ", expected " ++ toString expected)

/-- The failure of arguments for something that takes none. -/
def notGeneric (shown : String) : Failure := .ofType (shown ++ " is not a generic class")

/-- The number of arguments is right. -/
def checkCount (shown : String) (actual expected : Nat) : Except Failure Unit :=
  if expected = 0 then .error (notGeneric shown)
  else if actual = expected then .ok ()
  else .error (miscounted shown actual expected)

/-- The value can be put into a set. -/
def checkHashable (h : Hint) : Except Failure Unit :=
  match h.unhashable? with
  | some typeName => .error (.unhashableType typeName)
  | none => .ok ()

/-! ## Variables -/

mutual

/-- The hint with other hints in place of its variables. -/
def substitute (given : List (Nat × Hint)) : Hint → Except Failure Hint
  | typeVar id name =>
    match given.lookup id with
    | some h => h.check "Parameters to generic types must be types."
    | none => .ok (typeVar id name)
  | applied origin supertype args => do
    return applied origin supertype (← substituteAll given args)
  | filled name origin args => do return filled name origin (← substituteAll given args)
  | formed f args => do return formed f (← substituteAll given args)
  | union true members => do eitherOf (← substituteAll given members)
  | union false members => do unionOf (← substituteAll given members)
  | literal values => do return literal (← substituteAll given values)
  | annotated base metadata => do return withMetadata (← substitute given base) metadata
  | h => .ok h

/-- The same for several hints. -/
def substituteAll (given : List (Nat × Hint)) : List Hint → Except Failure (List Hint)
  | [] => .ok []
  | h :: rest => do
    let h ← substitute given h
    return h :: (← substituteAll given rest)

end

/-- Whether the hint is a variable. -/
def isVariable : Hint → Bool
  | typeVar .. => true
  | _ => false

/-- The number of a variable. -/
def variableId : Hint → Nat
  | typeVar id _ => id
  | _ => 0

/-- The hint with arguments in place of its variables, which have to be as many. -/
def withArguments (h : Hint) (args : List Hint) : Except Failure Hint := do
  let free := Universe.variablesOf h
  checkCount h.display args.length free.length
  h.substitute ((free.map variableId).zip args)

/-! ## Special forms and other names for classes -/

/-- The arguments of a function: a list counts as several. -/
def functionParts (key : Hint) : Except Failure (Hint × Hint) :=
  match key with
  | tuple [args, result] => .ok (args, result)
  | _ => .error (.ofType "Callable must be used as Callable[[arg, ...], result].")

/-- The type of a function under another name. -/
def functionOf (origin : ClassRef) (key : Hint) : Except Failure Hint := do
  let (args, result) ← functionParts key
  let result ← result.check "Callable[args, result]: result must be a type."
  match args with
  | ellipsis => return filled (some "Callable") origin [ellipsis, result]
  | sequence items | tuple items =>
    return filled (some "Callable") origin ((← items.mapM convert) ++ [result])
  | h => return filled (some "Callable") origin [← h.convert, result]

/-- The type of a tuple under another name. Three dots at the end stand for any number. -/
def tupleOf (origin : ClassRef) (key : Hint) : Except Failure Hint := do
  let parts := key.keyParts
  let endsOpen : Bool := match parts.getLast? with | some ellipsis => true | _ => false
  if 2 ≤ parts.length && endsOpen then
    let args ← checkAll "Tuple[t, ...]: t must be a type." parts.dropLast
    return filled (some "Tuple") origin (args ++ [ellipsis])
  else
    return filled (some "Tuple") origin (← checkAll "Tuple[t0, t1, ...]: each t must be a type." parts)

/-- A class with arguments under another name. -/
def namedItem (name : String) (origin : ClassRef) (key : Hint) : Except Failure Hint := do
  if name = "Callable" then functionOf origin key
  else if name = "Tuple" then tupleOf origin key
  else
    let args ← checkAll "Parameters to generic types must be types." key.keyParts
    checkCount (named name origin).display args.length (Catalogue.arity name)
    return filled (some name) origin args

/-- A special form that takes one hint. -/
def oneArgument (f : SpecialForm) (complaint : String) (key : Hint) : Except Failure Hint := do
  return formed f [← key.check complaint]

/-- A special form with arguments. -/
def formItem (f : SpecialForm) (key : Hint) : Except Failure Hint :=
  let shown := (form f).display
  match f with
  | .classVar | .final | .typeGuard | .unpack => oneArgument f (shown ++ " accepts only single type.") key
  | .required | .notRequired => oneArgument f (f.name ++ " accepts only a single type.") key
  | .union => unionOf key.keyParts
  | .optional => optional key
  | .literal => .ok (literalOf key.keyParts)
  | .concatenate =>
    let parts := key.keyParts
    match parts.getLast? with
    | none => .error (.ofType "Cannot take a Concatenate of no types.")
    | some ellipsis => do
      let args ← checkAll "Concatenate[arg, ...]: each arg must be a type." parts.dropLast
      return formed .concatenate (args ++ [ellipsis])
    | some _ =>
      .error (.ofType "The last parameter to Concatenate should be a ParamSpec variable or ellipsis.")
  | _ => .error (.ofType (shown ++ " is not subscriptable"))

/-! ## Parts of values -/

/-- The failure of a value that has no parts. -/
def noParts (h : Hint) : Failure :=
  .ofType (Text.quoted h.typeName ++ " object is not subscriptable")

/-- The part of a row of values at an index. -/
def partAt (what : String) (items : List Hint) (index : Int) : Except Failure Hint :=
  let place : Int := if index < 0 then items.length + index else index
  match if place < 0 then none else items[place.toNat]? with
  | some h => .ok h
  | none => .error (.raised "IndexError" (what ++ " index out of range"))

/-- A bound of a slice, which may be missing. -/
def bound? : Hint → Except Failure (Option Int)
  | nothing => .ok none
  | h =>
    match h.whole? with
    | some n => .ok (some n)
    | none => .error (.ofType "slice indices must be integers or None or have an __index__ method")

/-- The place that a bound of a slice stands for in a row of so many values: a negative one counts from the end, and
none lies outside of the row. -/
def placeOf (length : Nat) (low high default : Int) : Option Int → Int
  | none => default
  | some n => if n < 0 then max low (n + length) else min high n

/-- The places of a slice in a row of so many values. -/
def slicePlaces (length : Nat) (start stop : Option Int) (step : Int) : List Nat :=
  let low : Int := if step < 0 then -1 else 0
  let high : Int := if step < 0 then length - 1 else length
  let start := placeOf length low high (if step < 0 then high else low) start
  let stop := placeOf length low high (if step < 0 then low else high) stop
  let distance := if step < 0 then start - stop else stop - start
  let count := (distance + step.natAbs - 1) / step.natAbs
  (List.range count.toNat).map fun (k : Nat) => (start + k * step).toNat

/-- The parts of a row of values in the places of a slice. -/
def partsAt {α : Type} (items : List α) (start stop step : Hint) : Except Failure (List α) := do
  let step := (← step.bound?).getD 1
  if step = 0 then throw (.raised "ValueError" "slice step cannot be zero")
  let start ← start.bound?
  let stop ← stop.bound?
  return (slicePlaces items.length start stop step).filterMap (items[·]?)

/-- The value of a key in a table. -/
def valueAt (entries : List Hint) (key : Hint) : Except Failure Hint :=
  match key.unhashable? with
  | some typeName => .error (.unhashableType typeName)
  | none =>
    let found := entries.reverse.findSome? fun
      | tuple [k, value] => if k.same key then some value else none
      | _ => none
    match found with
    | some value => .ok value
    | none => .error (.raised "KeyError" key.display)

/-- The failure of a key that is no place in a row. -/
def noPlace (what : String) (key : Hint) : Failure :=
  .ofType <|
    if what = "string" then "string indices must be integers, not " ++ Text.quoted key.typeName
    else what ++ " indices must be integers or slices, not " ++ key.typeName

/-- The part of a row of values at a key, or several in a row, of which `ofParts` makes a value. -/
def rowItem (what : String) (items : List Hint) (ofParts : List Hint → Hint) (key : Hint) : Except Failure Hint :=
  match key with
  | slice start stop step => do return ofParts (← partsAt items start stop step)
  | key =>
    match key.whole? with
    | some index => partAt what items index
    | none => .error (noPlace what key)

/-- The characters of a text as values. -/
def characters (s : String) : List Hint := s.toList.map fun c => text c.toString

/-- The text of some texts in a row. -/
def joinedText (parts : List Hint) : Hint := text (String.join (parts.filterMap text?))

/-- The part of a value. -/
def valueItem (h key : Hint) : Except Failure Hint :=
  match h with
  | sequence items => rowItem "list" items sequence key
  | tuple items => rowItem "tuple" items tuple key
  | dict entries => valueAt entries key
  | h =>
    match h.text? with
    | some s => rowItem "string" (characters s) joinedText key
    | none => .error (noParts h)

end Hint

namespace Universe

open Hint

/-- The arguments of the base of generic classes or that of protocols: different variables. -/
def baseArguments (c : ClassRef) (args : List Hint) : Except Failure Hint := do
  if args.isEmpty then
    throw (.ofType ("Parameter list to " ++ c.name ++ "[...] cannot be empty"))
  if !args.all isVariable then
    throw (.ofType ("Parameters to " ++ c.name ++
      "[...] must all be type variables or parameter specification variables."))
  if (distinct args).length ≠ args.length then
    throw (.ofType ("Parameters to " ++ c.name ++ "[...] must all be unique"))
  return .filled none c args

/-! ## Models -/

/-- The names of arguments behind that of what has them. A function has a list of its own arguments as one. -/
def nameList (isFunction : Bool) (args : List Hint) (names : List String) : String :=
  let listed := isFunction && !args.head?.any isArgumentList
  "[" ++ commaList (if listed then ["list", names.getLastD ""] else names) ++ "]"

mutual

/-- An argument as the name of a model with arguments shows it: a class by its name, a value by that of its class. -/
def argumentName (u : Universe) : Hint → String
  | .text name => name
  | .category c => c.word
  | .function name => name
  | .other "builtin_function_or_method" shown =>
    String.ofList ((shown.toList.drop builtInStart.length).dropLast)
  | .ellipsis => "..."
  | .forward name => (Hint.forward name).display
  | .cls c _ => ((u.find? c.id).map (·.qualifiedName)).getD c.name
  | .submodel c _ _ => c.name
  | .named name _ => name
  | .form f => f.name
  | .typeVar id name => (Hint.typeVar id name).display
  | .applied origin _ args =>
    ((u.find? origin.id).map (·.qualifiedName)).getD origin.name ++
      nameList (origin.shown = "collections.abc.Callable") args (argumentNames u args)
  | .filled name origin args =>
    name.getD origin.name ++ nameList (name = some "Callable") args (argumentNames u args)
  | .formed f args => f.name ++ nameList false args (argumentNames u args)
  | .union _ members => SpecialForm.union.name ++ nameList false members (argumentNames u members)
  | .literal values => SpecialForm.literal.name ++ nameList false values (values.map display)
  | .annotated base metadata => "Annotated" ++ nameList false metadata (argumentName u base :: argumentNames u metadata)
  | h => h.typeName

/-- Several arguments as the name of a model shows them. -/
def argumentNames (u : Universe) : List Hint → List String
  | [] => []
  | h :: rest => argumentName u h :: argumentNames u rest

end

/-- A model, or one with arguments already, with these arguments. Its name tells them. -/
def submodelOf (u : Universe) (c : ClassRef) (supertype : Option Hint) (args : List Hint) : Hint :=
  let model := u.find? c.id
  let name := (model.map (·.ref.name)).getD c.name ++ "[" ++ commaList (u.argumentNames args) ++ "]"
  let moduleName := (model.map (·.moduleName)).getD .nothing
  .submodel { c with name, typeName := name, shown := shownName moduleName name } supertype args

mutual

/-- An argument of a model with other hints in place of its variables. -/
def refill (u : Universe) (given : List (Nat × Hint)) : Hint → Except Failure Hint
  | .typeVar id name => .ok ((given.lookup id).getD (.typeVar id name))
  | .submodel c supertype args => do return u.submodelOf c supertype (← refillAll u given args)
  | .sequence items => do return .sequence (← refillAll u given items)
  | h => h.substitute given

/-- Several arguments with other hints in place of their variables. -/
def refillAll (u : Universe) (given : List (Nat × Hint)) : List Hint → Except Failure (List Hint)
  | [] => .ok []
  | h :: rest => do
    let h ← refill u given h
    return h :: (← refillAll u given rest)

end

/-- A model, or one with arguments already, with hints in place of the variables in its arguments. With the variables
themselves it stays what it is. -/
def modelItem (u : Universe) (h : Hint) (c : ClassRef) (supertype : Option Hint) (args : List Hint) (key : Hint) :
    Except Failure Hint := do
  let free := u.freeInAll args
  let given := key.keyParts
  checkCount c.display given.length free.length
  if sameAll given free then return h
  return u.submodelOf c supertype (← u.refillAll ((free.map variableId).zip given) args)

/-- A class with arguments, by the rule of a known class. -/
def itemByRule (u : Universe) (c : ClassRef) (rule : String) (key : Hint) : Except Failure Hint := do
  match rule with
  | "generic" =>
    let args ← key.keyParts.mapM convert
    if c.id = ClassRef.genericId ∨ c.id = ClassRef.protocolId then baseArguments c args
    else
      let expected := ((u.find? c.id).map (·.parameters.length)).getD 0
      checkCount c.display args.length expected
      return .filled none c args
  | "annotated" => annotate key.keyParts
  | "function" =>
    let (args, result) ← functionParts key
    match args with
    | .tuple items | .sequence items => return .applied c (u.supertype? c) (items ++ [result])
    | args =>
      if args.isArgumentList then return .applied c (u.supertype? c) [args, result]
      else
        throw (.ofType ("Expected a list of types, an ellipsis, ParamSpec, or Concatenate. Got " ++
          args.display))
  | "model" =>
    checkHashable key
    if c.shown = "pydantic.main.BaseModel" then
      throw (.ofType "Type parameters should be placed on typing.Generic, not BaseModel")
    if !u.descends c ClassRef.genericId then
      throw (.ofType (c.display ++ " cannot be parametrized because it does not inherit from typing.Generic"))
    u.modelItem (u.hintOf c) c (u.supertype? c) (u.modelVariables c) key
  | _ => return .applied c (u.supertype? c) key.keyParts

/-- The member by which a class takes arguments. -/
def argumentsMember : String := "__class_getitem__"

/-- The member of an enumeration that a key names. -/
def enumeratedItem (u : Universe) (c : ClassRef) (key : Hint) : Except Failure Hint :=
  match key.unhashable? with
  | some typeName => .error (.unhashableType typeName)
  | none =>
    match (u.enumerated c).find? fun (name, _) => (Hint.text name).same key with
    | some (name, value) => .ok (memberOf c name value)
    | none => .error (.raised "KeyError" key.display)

/-- A class with arguments, or a member of an enumeration. Only the class of all classes takes arguments by
itself; other classes have a member for it. -/
def classItem (u : Universe) (c : ClassRef) (key : Hint) : Except Failure Hint :=
  if c.maker = .enumeration then u.enumeratedItem c key
  else if c.shown = "type" then .ok (.applied c none key.keyParts)
  else
    match u.member? c argumentsMember with
    | some (.other "classmethod" rule) => u.itemByRule c rule key
    | some (.function _) => .ok .nothing
    | some (.cls made _) => .ok (.other made.name "")
    | some .nothing | none => .error (.ofType ("type '" ++ c.typeName ++ "' is not subscriptable"))
    | some h => .error (.ofType (Text.quoted h.typeName ++ " object is not callable"))

/-- What stands behind a hint in square brackets, as a hint. -/
def item (u : Universe) (h key : Hint) : Except Failure Hint :=
  match h with
  | .form f => formItem f key
  | .named name origin => namedItem name origin key
  | .cls c _ => u.classItem c key
  | .submodel c supertype args => do
    checkHashable key
    u.modelItem h c supertype args key
  | .filled _ origin _ => do
    if origin.id = ClassRef.genericId ∨ origin.id = ClassRef.protocolId then
      throw (.ofType ("Cannot subscript already-subscripted " ++ h.display))
    h.withArguments (← key.keyParts.mapM convert)
  | .formed .. | .union false _ | .literal _ | .annotated .. => do
    if (variablesOf h).isEmpty then throw (notGeneric h.display)
    h.withArguments (← key.keyParts.mapM convert)
  | .applied .. | .union true _ => h.withArguments key.keyParts
  | h => valueItem h key

end Universe

end SchemaRegistry
