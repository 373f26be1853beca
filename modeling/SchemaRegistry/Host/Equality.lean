import SchemaRegistry.Host.Hint

/-!
# Equal hints

Two hints are equal if they mean the same: the order of the members of a union and of the values of a
literal does not matter, and a number is equal to the same number of another type. A hint that holds a list
or a table cannot be put into a set.
-/

namespace SchemaRegistry

namespace Hint

/-- The exact value of a finite number: a signed numerator and a denominator. -/
def ratio? : Hint → Option (Int × Nat)
  | flag value => some (if value then 1 else 0, 1)
  | whole value => some (value, 1)
  | real (.finite negative significand exponent) =>
    let (num, den) := Number.Binary64.ratio significand exponent
    some (if negative then -(num : Int) else num, den)
  | member of _ (.whole value) => if of.traits.contains .integer then some (value, 1) else none
  | _ => none

/-- The text that a value is. A member of an enumeration of texts is the text that is its value. -/
def text? : Hint → Option String
  | text value => some value
  | category c => some c.word
  | member of _ (text value) => if of.traits.contains .string then some value else none
  | _ => none

/-- Two values without parts are equal. -/
def sameAtom (a b : Hint) : Bool :=
  match a.ratio?, b.ratio?, a.text?, b.text? with
  | some (n, d), some (n', d'), _, _ => n * d' == n' * d
  | _, _, some s, some s' => s == s'
  | _, _, _, _ =>
    match a, b with
    | nothing, nothing | ellipsis, ellipsis => true
    | real (.infinite negative), real (.infinite negative') => negative == negative'
    | member of name _, member of' name' _ => of.id == of'.id && name == name'
    | cls c _, cls c' _ => c.id == c'.id
    | named name _, named name' _ => name == name'
    | form f, form f' => f == f'
    | newType id .., newType id' .. | initVar id _, initVar id' _ | typeVar id _, typeVar id' _ =>
      id == id'
    | forward s, forward s' => s == s'
    | function name, function name' => name == name'
    | other typeName shown, other typeName' shown' => typeName == typeName' && shown == shown'
    | _, _ => false

mutual

/-- Two hints are equal. -/
def same : Hint → Hint → Bool
  | sequence items, sequence items' => sameAll items items'
  | tuple items, tuple items' => sameAll items items'
  | set items, set items' => items.length == items'.length && allIn items items'
  | dict entries, dict entries' => entries.length == entries'.length && allIn entries entries'
  | applied origin _ args, applied origin' _ args' => origin.id == origin'.id && sameAll args args'
  | submodel c _ args, submodel c' _ args' => c.id == c'.id && sameAll args args'
  | filled _ origin args, filled _ origin' args' => origin.id == origin'.id && sameAll args args'
  | formed f args, formed f' args' => f == f' && sameAll args args'
  | union _ members, union _ members' => members.length == members'.length && allIn members members'
  | literal values, literal values' =>
    values.length == values'.length && allTypedIn values values'
  | annotated base metadata, annotated base' metadata' =>
    same base base' && sameAll metadata metadata'
  | slice start stop step, slice start' stop' step' =>
    same start start' && same stop stop' && same step step'
  | a, b => sameAtom a b

/-- Two lists of hints are equal, item by item. -/
def sameAll : List Hint → List Hint → Bool
  | [], [] => true
  | h :: rest, h' :: rest' => same h h' && sameAll rest rest'
  | _, _ => false

/-- Every hint of the first list is equal to one of the second. -/
def allIn : List Hint → List Hint → Bool
  | [], _ => true
  | h :: rest, others => others.any (same h) && allIn rest others

/-- Every value of the first list is equal to one of the second that has the same type. -/
def allTypedIn : List Hint → List Hint → Bool
  | [], _ => true
  | h :: rest, others =>
    (others.any fun other => h.typeName == other.typeName && same h other) && allTypedIn rest others

end

/-- The hints of a list, each once: the first of equal ones stays. -/
def distinct : List Hint → List Hint
  | [] => []
  | h :: rest => h :: (distinct rest).filter fun other => !same h other

/-- The values of a list, each once. Values of different types are different. -/
def distinctTyped : List Hint → List Hint
  | [] => []
  | h :: rest =>
    h :: (distinctTyped rest).filter fun other => !(h.typeName == other.typeName && same h other)

/-! ## What cannot be put into a set -/

mutual

/-- The name of the type that keeps a hint from being put into a set, if one does. -/
def unhashable? : Hint → Option String
  | sequence _ => some "list"
  | set _ => some "set"
  | dict _ => some "dict"
  | slice .. => some "slice"
  | tuple items => unhashableIn? items
  | applied _ _ args => unhashableIn? args
  | filled _ _ args => unhashableIn? args
  | formed _ args => unhashableIn? args
  | union _ members => unhashableIn? members
  | literal values => unhashableIn? values
  | annotated base metadata => (unhashable? base).or (unhashableIn? metadata)
  | _ => none

/-- The same for the first such hint of a list. -/
def unhashableIn? : List Hint → Option String
  | [] => none
  | h :: rest => (unhashable? h).or (unhashableIn? rest)

end

end Hint

end SchemaRegistry
