import SchemaRegistry.Failure
import SchemaRegistry.Host.Display
import SchemaRegistry.Host.Written.Reader

/-!
# Making hints of hints

Which values can stand where a hint is expected, and how hints are made of others: unions, optional hints,
literals, hints with metadata. A text stands for a hint to be looked up later. A union has each of its
members once, the members of a union among them count as its own, and a union of one member is that member.
-/

namespace SchemaRegistry

/-- A failure that is about the type of a value. -/
def Failure.ofType (message : String) : Failure := .raised "TypeError" message

/-- The failure of a value that cannot be put into a set. -/
def Failure.unhashableType (typeName : String) : Failure :=
  .ofType ("unhashable type: " ++ Text.quoted typeName)

namespace Hint

/-- The text stands for a hint to be looked up later: it has to be an expression. A star before it is fine. -/
def ofForward (name : String) : Except Failure Hint :=
  let expression :=
    match name.toList with
    | '*' :: _ => "(" ++ name ++ ",)[0]"
    | _ => name
  match Written.readWhole expression with
  | .ok _ => .ok (forward name)
  | .error fault =>
    if fault.kind = "ValueError" then .error (.raised fault.kind fault.message)
    else .error (.raised "SyntaxError"
      ("Forward reference must be an expression -- got " ++ Text.quoted name))

/-- The hint that a value stands for: the class of `None` for `None`, and a name to look up for a text. -/
def convert : Hint → Except Failure Hint
  | nothing => .ok noneType
  | h =>
    match h.text? with
    | some name => ofForward name
    | none => .ok h

/-- How strictly a value is taken for a hint. -/
inductive Place where
  | argument
  /-- What metadata are given to: marks of variables are fine. -/
  | annotated
deriving DecidableEq

/-- The hint is the base of generic classes or that of protocols. -/
def isGenericBase : Hint → Bool
  | cls c _ => c.id == ClassRef.genericId || c.id == ClassRef.protocolId
  | _ => false

/-- The hint has arguments but is none itself in this place. -/
def isUnfit (place : Place) : Hint → Bool
  | filled _ origin _ => origin.id == ClassRef.genericId || origin.id == ClassRef.protocolId
  | formed f _ | annotated (form f) _ => place == .argument && (f == .classVar || f == .final)
  | annotated base _ => base.isGenericBase
  | _ => false

/-- Special forms that are hints without arguments. -/
def SpecialForm.standsAlone (place : Place) (f : SpecialForm) : Bool :=
  [SpecialForm.noReturn, .never, .self, .literalString, .typeAlias].contains f ||
    (place == .annotated && [SpecialForm.classVar, .final].contains f)

/-- Takes a value for a hint. `complaint` starts the message about several values in its place. -/
def check (h : Hint) (complaint : String) (place : Place := .argument) : Except Failure Hint := do
  let h ← h.convert
  if h.isUnfit place then throw (.ofType (h.display ++ " is not valid as type argument"))
  match h with
  | form f =>
    if SpecialForm.standsAlone place f then return h
    else throw (.ofType ("Plain " ++ h.display ++ " is not valid as type argument"))
  | tuple _ =>
    throw (.ofType (complaint ++ " Got " ++ String.ofList (h.display.toList.take 100) ++ "."))
  | _ =>
    if h.isGenericBase then
      throw (.ofType ("Plain " ++ h.display ++ " is not valid as type argument"))
    else return h

/-- Takes several values for hints. -/
def checkAll (complaint : String) : List Hint → Except Failure (List Hint)
  | [] => .ok []
  | h :: rest => do
    let h ← h.check complaint
    return h :: (← checkAll complaint rest)

/-! ## Unions -/

/-- The members that a hint brings into a union. -/
def unionMembers : Hint → List Hint
  | union _ members => members
  | h => [h]

/-- The union of hints that are already checked. -/
def joined (members : List Hint) : Except Failure Hint :=
  let members := members.flatMap unionMembers
  match unhashableIn? members with
  | some typeName => .error (.unhashableType typeName)
  | none =>
    match distinct members with
    | [h] => .ok h
    | members => .ok (union false members)

/-- The union of some values. -/
def unionOf (members : List Hint) : Except Failure Hint := do
  if members.isEmpty then throw (.ofType "Cannot take a Union of no types.")
  joined (← checkAll "Union[arg, ...]: each arg must be a type." members)

/-- A value or `None`. -/
def optional (h : Hint) : Except Failure Hint := do
  unionOf [← h.check "typing.Optional requires a single type.", noneType]

/-- The value can be joined by a bar to another such value. -/
def takesBar : Hint → Bool
  | nothing | cls .. | applied .. | submodel .. | union true _ => true
  | _ => false

/-- A bar next to the value makes a union like any other. -/
def makesUnion : Hint → Bool
  | form _ | formed .. | named .. | filled .. | union false _ | literal _ | annotated .. | newType ..
  | typeVar .. | forward _ => true
  | _ => false

/-- Two members of a union that is written with bars are the same. -/
def sameMember : Hint → Hint → Bool
  | cls c _, cls d _ => c.id == d.id
  | applied origin supertype args, applied origin' supertype' args' =>
    same (applied origin supertype args) (applied origin' supertype' args')
  | submodel c supertype args, submodel d supertype' args' =>
    same (submodel c supertype args) (submodel d supertype' args')
  | _, _ => false

/-- The members of a union that is written with bars, each once. -/
def distinctMembers : List Hint → List Hint
  | [] => []
  | h :: rest => h :: (distinctMembers rest).filter fun other => !sameMember h other

/-- A value as a member of a union that is written with bars. -/
def asMember : Hint → Hint
  | nothing => noneType
  | h => h

/-- The union of values that take a bar. -/
def barred (members : List Hint) : Hint :=
  match distinctMembers ((members.flatMap unionMembers).map asMember) with
  | [h] => h
  | members => union true members

/-- The bits of two whole numbers, those of either. -/
def eitherBits (a b : Int) : Int :=
  match a, b with
  | .ofNat m, .ofNat n => (m ||| n : Nat)
  | .ofNat m, .negSucc n => .negSucc (n - (m &&& n))
  | .negSucc m, .ofNat n => .negSucc (m - (m &&& n))
  | .negSucc m, .negSucc n => .negSucc (m &&& n)

/-- The whole number that a value is. A member of an enumeration of whole numbers is the number that is its value. -/
def whole? : Hint → Option Int
  | flag value => some (if value then 1 else 0)
  | whole value => some value
  | member of _ (whole value) => if of.traits.contains .integer then some value else none
  | _ => none

/-- The failure of operands that an operator does not take. -/
def badOperands (sign : String) (a b : Hint) : Failure :=
  .ofType ("unsupported operand type(s) for " ++ sign ++ ": " ++ Text.quoted a.typeName ++ " and " ++
    Text.quoted b.typeName)

/-- The value of two operands with a bar between them. -/
def either (a b : Hint) : Except Failure Hint :=
  match a, b with
  | flag p, flag q => .ok (flag (p || q))
  | set items, set items' => .ok (set (distinct (items ++ items')))
  | dict entries, dict entries' => .ok (dict (entries ++ entries'))
  | a, b =>
    match a.whole?, b.whole? with
    | some m, some n => .ok (whole (eitherBits m n))
    | _, _ =>
      if a.makesUnion || b.makesUnion then unionOf [a, b]
      else if a.takesBar && b.takesBar && !(a.same nothing && b.same nothing) then .ok (barred [a, b])
      else .error (badOperands "|" a b)

/-- The value of several operands with bars between them. -/
def eitherOf : List Hint → Except Failure Hint
  | [] => .error (.ofType "reduce() of empty iterable with no initial value")
  | h :: rest => rest.foldlM either h

/-! ## Literals and metadata -/

/-- The values of a literal bring those of literals among them. -/
def literalValues : Hint → List Hint
  | literal values => values
  | h => [h]

/-- One of some values. Each of them stands once, if they can be told apart. -/
def literalOf (values : List Hint) : Hint :=
  let values := values.flatMap literalValues
  literal (if (unhashableIn? values).isSome then values else distinctTyped values)

/-- The hint with metadata, which come after those that it has. -/
def withMetadata : Hint → List Hint → Hint
  | annotated base metadata, more => annotated base (metadata ++ more)
  | h, more => annotated h more

/-- The value is a plain one: it does not know any module as its own. -/
def isHomeless : Hint → Bool
  | flag _ | whole _ | real _ | ellipsis | sequence _ | set _ | dict _ | slice .. => true
  | other typeName _ => ["complex", "NotImplementedType"].contains typeName
  | _ => false

/-- A value and its metadata as a hint. A plain value takes none. -/
def annotate : List Hint → Except Failure Hint
  | [] | [_] =>
    .error (.ofType
      "Annotated[...] should be used with at least two arguments (a type and an annotation).")
  | h :: metadata => do
    let h ← h.check "Annotated[t, ...]: t must be a type." .annotated
    if h.isHomeless then
      throw (.raised "AttributeError"
        (Text.quoted h.typeName ++ " object has no attribute '__module__'"))
    return h.withMetadata metadata

end Hint

end SchemaRegistry
