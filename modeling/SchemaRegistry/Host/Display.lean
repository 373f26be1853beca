import SchemaRegistry.Host.Equality
import SchemaRegistry.Text.Quoted

/-!
# Hints as messages show them

A hint is shown by itself (`display`) or as an argument of another hint (`displayArguments`). A class that is
an argument is shown by its name alone.
-/

namespace SchemaRegistry

namespace Hint

/-- The module of the names that are made on the spot. -/
def spotModule : String := "__main__"

/-- Several shown values, with a comma between two of them. -/
def commaList (items : List String) : String := ", ".intercalate items

/-- The arguments of a hint in brackets. No argument is shown as an empty pair of parentheses. -/
def bracketed (args : List String) : String :=
  "[" ++ (if args.isEmpty then "()" else commaList args) ++ "]"

/-- The value stands for the arguments of a function by itself. -/
def isArgumentList : Hint → Bool
  | ellipsis | tuple _ | sequence _ | formed .concatenate _ => true
  | _ => false

/-- The arguments of the type of a function: the last one is the type of its result. -/
def functionArguments (args : List Hint) (shown : List String) : String :=
  match args with
  | [first, _] => if first.isArgumentList then bracketed shown else listed shown
  | _ => listed shown
where
  /-- The arguments as a list, and the result. -/
  listed (shown : List String) : String :=
    "[[" ++ commaList shown.dropLast ++ "], " ++ shown.getLastD "" ++ "]"

/-- A hint that is an argument, given how it is shown by itself. -/
def argumentText (h : Hint) (alone : String) : String :=
  match h with
  | cls c _ | submodel c .. => c.shown
  | ellipsis => "..."
  | function name => name
  | _ => alone

/-- How the text of a built-in function starts. -/
def builtInStart : String := "<built-in function "

/-- A hint as an argument of a class or between bars, given how it is shown by itself. Functions are shown
there by their module and name. -/
def plainArgumentText (h : Hint) (alone : String) : String :=
  match h with
  | function name => "typing." ++ name
  | other "builtin_function_or_method" shown =>
    String.ofList ((shown.toList.drop builtInStart.length).dropLast)
  | h => h.argumentText alone

mutual

/-- A hint as messages show it. -/
def display : Hint → String
  | nothing => "None"
  | flag value => if value then "True" else "False"
  | whole value => toString value
  | real value => value.text
  | text value => Text.quoted value
  | ellipsis => "Ellipsis"
  | sequence items => "[" ++ commaList (displayAll items) ++ "]"
  | tuple [item] => "(" ++ display item ++ ",)"
  | tuple items => "(" ++ commaList (displayAll items) ++ ")"
  | set [] => "set()"
  | set items => "\x7b" ++ commaList (displayAll items) ++ "\x7d"
  | dict entries => "\x7b" ++ commaList (displayEntries entries) ++ "\x7d"
  | category c => "<FieldCategory." ++ c.word ++ ": " ++ Text.quoted c.word ++ ">"
  | member of name value => "<" ++ of.name ++ "." ++ name ++ ": " ++ display value ++ ">"
  | cls c _ | submodel c .. => c.display
  | applied origin _ args =>
    origin.shown ++
      if origin.shown = "collections.abc.Callable" then functionArguments args (displayPlainArguments args)
      else bracketed (displayPlainArguments args)
  | named name _ => "typing." ++ name
  | filled (some "Callable") _ args => "typing.Callable" ++ functionArguments args (displayArguments args)
  | filled (some name) _ args => "typing." ++ name ++ bracketed (displayArguments args)
  | filled none origin args => origin.shown ++ bracketed (displayArguments args)
  | form f => "typing." ++ f.name
  | formed .unpack [arg] => "*" ++ display arg
  | formed f args => "typing." ++ f.name ++ bracketed (displayArguments args)
  | union true members => " | ".intercalate (displayMembers members)
  | union false [a, b] =>
    if a.isNoneType then "typing.Optional[" ++ argumentText b (display b) ++ "]"
    else if b.isNoneType then "typing.Optional[" ++ argumentText a (display a) ++ "]"
    else "typing.Union[" ++ argumentText a (display a) ++ ", " ++ argumentText b (display b) ++ "]"
  | union false members => "typing.Union" ++ bracketed (displayArguments members)
  | literal values => "typing.Literal" ++ bracketed (displayArguments values)
  | newType _ name _ => spotModule ++ "." ++ name
  | annotated base metadata =>
    "typing.Annotated[" ++ commaList (argumentText base (display base) :: displayAll metadata) ++ "]"
  | initVar _ (cls c _) | initVar _ (submodel c ..) => "dataclasses.InitVar[" ++ c.name ++ "]"
  | initVar _ of => "dataclasses.InitVar[" ++ display of ++ "]"
  | typeVar _ name => "~" ++ name
  | forward name => "ForwardRef(" ++ Text.quoted name ++ ")"
  | function name => "<function " ++ name ++ ">"
  | slice start stop step => "slice(" ++ commaList [display start, display stop, display step] ++ ")"
  | other _ shown => shown

/-- Several hints by themselves. -/
def displayAll : List Hint → List String
  | [] => []
  | h :: rest => display h :: displayAll rest

/-- Several hints as arguments. -/
def displayArguments : List Hint → List String
  | [] => []
  | h :: rest => argumentText h (display h) :: displayArguments rest

/-- Several hints as arguments of a class. -/
def displayPlainArguments : List Hint → List String
  | [] => []
  | h :: rest => plainArgumentText h (display h) :: displayPlainArguments rest

/-- The members of a union written with bars. -/
def displayMembers : List Hint → List String
  | [] => []
  | h :: rest =>
    (if h.isNoneType then "None" else plainArgumentText h (display h)) :: displayMembers rest

/-- The entries of a table. -/
def displayEntries : List Hint → List String
  | [] => []
  | tuple [key, value] :: rest => (display key ++ ": " ++ display value) :: displayEntries rest
  | h :: rest => display h :: displayEntries rest

end

end Hint

end SchemaRegistry
