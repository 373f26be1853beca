import SchemaRegistry.Failure
import SchemaRegistry.Text.Case

/-!
# The environment

The variables under which a process starts, in the order in which they were set.
-/

namespace SchemaRegistry

/-- The variables of a process with their values. -/
abbrev Environment := List (String × String)

namespace Environment

/-- A variable that a process can have: its name is not empty and holds no equals sign, and neither name nor
value holds a zero character. -/
def checkVariable (name : String) (value : Json) : Except Failure (String × String) :=
  let hasZero (s : String) : Bool := s.toList.any fun c => c.toNat == 0
  match value with
  | .str value =>
    if hasZero name || hasZero value then .error .zeroInVariable
    else if name.contains '=' then .error .variableName
    else if name.isEmpty then .error .namelessVariable
    else .ok (name, value)
  | value => .error (.variableValue value.typeName)

/-- The environment of these variables. The first that cannot be fails it. -/
def ofFields (fields : List (String × Json)) : Except Failure Environment :=
  fields.mapM fun (name, value) => checkVariable name value

/-- The value of the variable set last among those whose name satisfies `p`. -/
def lastValue? (env : Environment) (p : String → Bool) : Option String :=
  (env.reverse.find? fun (name, _) => p name).map Prod.snd

/-- The value of a variable, or `fallback` if it is not set. -/
def get (env : Environment) (name fallback : String) : String :=
  (env.lastValue? (· == name)).getD fallback

/-- The value of a variable whose name may be written in any case, or `fallback` if it is not set. -/
def getAnyCase (env : Environment) (name fallback : String) : String :=
  (env.lastValue? fun other => Text.lower other == Text.lower name).getD fallback

end Environment

end SchemaRegistry
