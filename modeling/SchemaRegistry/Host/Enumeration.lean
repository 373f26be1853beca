import SchemaRegistry.Host.Typing
import SchemaRegistry.Host.Universe
import SchemaRegistry.Text.Case
import SchemaRegistry.Text.Digits

/-!
# Enumerations

An enumeration without members can be extended, one with members cannot. Its values can be those of another
class, and then each member's value has to make one of them. Names with an underscore at both ends are
reserved, and a few names are no names of members at all.
-/

namespace SchemaRegistry

namespace Enumeration

/-! ## Names of members -/

/-- The name is between two underscores on each side. -/
def isDoublyMarked (name : String) : Bool :=
  match name.toList, name.toList.reverse with
  | '_' :: '_' :: c :: _, '_' :: '_' :: d :: _ => 4 < name.length && c ≠ '_' && d ≠ '_'
  | _, _ => false

/-- The name is between two underscores. -/
def isMarked (name : String) : Bool :=
  match name.toList, name.toList.reverse with
  | '_' :: c :: _, '_' :: d :: _ => 2 < name.length && c ≠ '_' && d ≠ '_'
  | _, _ => false

/-- The name is private to the enumeration: it starts with the name of the enumeration and underscores. -/
def isPrivate (family name : String) : Bool :=
  let start := "_" ++ family ++ "__"
  let endsMarked : Bool :=
    match name.toList.reverse with
    | '_' :: '_' :: _ => true
    | _ => false
  start.toList.isPrefixOf name.toList && start.length < name.length && !endsMarked

/-- Reserved names that say something about the enumeration. -/
def reserved : List String := [
  "_order_", "_generate_next_value_", "_numeric_repr_", "_missing_", "_ignore_", "_iter_member_",
  "_iter_member_by_value_", "_iter_member_by_def_"]

/-- Names that no member can have. -/
def impossible : List String := ["mro", ""]

/-- The value describes how members of instances are read. -/
def isDescriptor : Hint → Bool
  | .function _ => true
  | .cls c _ => ["property", "classmethod", "staticmethod"].contains c.name
  | .other typeName _ => typeName = "classmethod_descriptor"
  | _ => false

/-- Sorts out the members from what stands in the body of an enumeration: a name that stands there twice is
refused. -/
def membersOf (family : String) :
    List (String × Hint) → List (String × Hint) → Except Failure (List (String × Hint))
  | members, [] => .ok members
  | members, (name, value) :: rest =>
    if isPrivate family name then membersOf family members rest
    else if isMarked name then
      if reserved.contains name then membersOf family members rest
      else
        .error (.raised "ValueError"
          ("_sunder_ names, such as " ++ Text.quoted name ++ ", are reserved for future Enum use"))
    else if isDoublyMarked name then membersOf family members rest
    else
      match members.lookup name with
      | some found =>
        .error (.ofType (Text.quoted name ++ " already defined as " ++ found.display))
      | none =>
        if isDescriptor value then membersOf family members rest
        else membersOf family (members ++ [(name, value)]) rest

/-- The members have names that members can have. -/
def checkNames (members : List (String × Hint)) : Except Failure Unit :=
  match members.filter fun (name, _) => impossible.contains name with
  | [] => .ok ()
  | bad =>
    .error (.raised "ValueError"
      ("invalid enum member name(s) " ++ ",".intercalate (bad.map fun (name, _) => Text.quoted name)))

/-! ## Bases -/

/-- The first base whose row has an enumeration with members is not extended. -/
def checkExtensible (u : Universe) (family : String) (bases : List ClassRef) : Except Failure Unit :=
  match (bases.flatMap u.lineage).find? fun c => !c.enumerated.isEmpty with
  | some found =>
    .error (.ofType ("<enum " ++ Text.quoted family ++ "> cannot extend " ++ found.ref.display))
  | none => .ok ()

/-- The class of values in the row of a base: the one of the nearest enumeration, or the class before the
nearest one that builds its own instances. -/
def dataTypeIn? (candidate : Option Nat) : List HostClass → Option Nat
  | [] => none
  | c :: rest =>
    if c.ref.id = ClassRef.objectId then dataTypeIn? candidate rest
    else if c.ref.maker = .enumeration then
      match c.dataType with
      | some id => some id
      | none => dataTypeIn? candidate rest
    else if c.record.isSome || (c.members.lookup "__new__").isSome then
      some (candidate.getD c.ref.id)
    else dataTypeIn? (candidate.or (some c.ref.id)) rest

/-- The class of the values of an enumeration with these bases, which are not more than one. -/
def dataType (u : Universe) (family : String) (bases : List ClassRef) : Except Failure (Option Nat) :=
  match (bases.filterMap fun base => dataTypeIn? none (u.lineage base)).eraseDups with
  | [] => .ok none
  | [id] => .ok (some id)
  | ids =>
    .error (.ofType ("too many data types for " ++ Text.quoted family ++ ": \x7b" ++
      ", ".intercalate ((u.row ids).map fun c => c.ref.display) ++ "\x7d"))

/-- The bases of an enumeration: the last one is an enumeration, none has members, and there is one class of
values at most. -/
def checkBases (u : Universe) (family : String) (bases : List ClassRef) :
    Except Failure (Option Nat) := do
  checkExtensible u family bases
  match bases.getLast? with
  | some base =>
    if base.maker ≠ .enumeration then
      throw (.ofType ("new enumerations should be created as " ++
        "`EnumName([mixin_type, ...] [data_type,] enum_type)`"))
    dataType u family bases
  | none => return none

/-! ## Values -/

/-- The failure of a value that is no whole number. -/
def notWhole (typeName : String) : Failure :=
  .ofType ("int() argument must be a string, a bytes-like object or a real number, not " ++
    Text.quoted typeName)

/-- A value makes a whole number. -/
def checkWhole : Hint → Except Failure Unit
  | .flag _ | .whole _ => .ok ()
  | .real .nan => .error (.raised "ValueError" "cannot convert float NaN to integer")
  | .real (.infinite _) => .error (.raised "OverflowError" "cannot convert float infinity to integer")
  | .real _ => .ok ()
  | .text s =>
    match Text.readInt s with
    | .ok _ => .ok ()
    | .error _ =>
      .error (.raised "ValueError" ("invalid literal for int() with base 10: " ++ Text.quoted s))
  | h => .error (notWhole h.typeName)

/-- A value of a member makes a value of the class of values. -/
def checkValue (u : Universe) (row : List HostClass) (dataType : Option Nat) (value : Hint) :
    Except Failure Unit :=
  match dataType.bind u.find? with
  | none => .ok ()
  | some c =>
    if c.ref.traits.contains .integer then checkWhole value
    else if row.any fun c => c.ref.name = "StrEnum" && c.ref.maker = .enumeration then
      match value with
      | .text _ | .category _ => .ok ()
      | h => .error (.ofType (h.display ++ " is not a string"))
    else .ok ()

/-- The values that members get in turn: whole numbers, powers of two if members can be combined, or their
names in lower case. -/
def generated (traits : List Trait) (isText : Bool) (index : Nat) (name : String) : Hint :=
  if traits.contains .flags then .whole (Nat.pow 2 index : Nat)
  else if isText then .text (Text.lower name)
  else .whole (index + 1 : Nat)

end Enumeration

end SchemaRegistry
