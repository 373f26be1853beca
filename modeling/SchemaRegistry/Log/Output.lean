import SchemaRegistry.Failure
import SchemaRegistry.Text.Case
import SchemaRegistry.Text.Split
import SchemaRegistry.Text.Template

/-!
# Where records are written

Records below a threshold are dropped. Of the others, those from a certain level on are written to the
standard error output and those below it, down to the level of debugging, to the standard output. Setting the
output up replaces whatever was set up before.
-/

namespace SchemaRegistry

/-! ## Levels -/

/-- The number of a level that is given by its word. -/
def levelOfWord? : String → Option Int
  | "CRITICAL" | "FATAL" => some 50
  | "ERROR" => some 40
  | "WARNING" | "WARN" => some 30
  | "INFO" => some 20
  | "DEBUG" => some 10
  | "NOTSET" => some 0
  | _ => none

/-- The word of a level. A number between the levels has none of its own. -/
def levelWord (level : Int) : String :=
  if level = 50 then "CRITICAL"
  else if level = 40 then "ERROR"
  else if level = 30 then "WARNING"
  else if level = 20 then "INFO"
  else if level = 10 then "DEBUG"
  else if level = 0 then "NOTSET"
  else "Level " ++ toString level

/-- The level of debugging, below which nothing is written. -/
def debugLevel : Int := 10

/-- The level of information. -/
def infoLevel : Int := 20

/-- The level of warnings. -/
def warningLevel : Int := 30

/-- A level as it is asked for. -/
inductive LevelChoice where
  | number (level : Int)
  | word (text : String)
deriving DecidableEq, Repr

/-- The level that is asked for. A word may be written in any case; one that is no level asks for
information. -/
def LevelChoice.level : LevelChoice → Int
  | number level => level
  | word text => (levelOfWord? (Text.upper text)).getD infoLevel

/-! ## Events -/

/-- Something that a part of the program reports. -/
structure LogEvent where
  /-- The name of the part; the root has none. -/
  logger : String
  level : Int
  message : Json
  arguments : List Json

namespace LogEvent

/-- The name of the part that reports. -/
def loggerName (e : LogEvent) : String := if e.logger = "" then "root" else e.logger

/-- The message as a template. -/
def template (e : LogEvent) : String := e.message.plainText

/-- The values of the arguments. A single object that is not empty gives its fields by name. -/
def values (e : LogEvent) : Values :=
  match e.arguments with
  | [.obj (field :: rest)] =>
    .named ((field :: rest).reverse.map fun (name, value) => (name, .value value)) (.obj (field :: rest))
  | items => .listed items

/-- The arguments as a layout shows them. -/
def shownArguments (e : LogEvent) : Shown :=
  match e.arguments with
  | [.obj (field :: rest)] => .value (.obj (field :: rest))
  | items => .row items

/-- The message with its arguments in their places. Without arguments it stands as it is. Arguments that do
not fit leave no text. -/
def text? (e : LogEvent) : Option String :=
  if e.arguments.isEmpty then some e.template else Template.fill? e.template e.values

/-- What a layout may show of an event with a text. No event carries a fault or a place in a program. -/
def fields (e : LogEvent) (text : String) : List (String × Shown) :=
  [("name", .value (.str e.loggerName)), ("levelname", .value (.str (levelWord e.level))),
   ("levelno", .value (.int e.level)), ("message", .value (.str text)), ("msg", .value e.message),
   ("args", e.shownArguments), ("exc_info", .value .null), ("exc_text", .value .null),
   ("stack_info", .value .null), ("threadName", .value (.str "MainThread")),
   ("processName", .value (.str "MainProcess"))]

/-- The event as a layout shows it, if it has a text and the layout asks for nothing else than what there is. -/
def shownBy? (e : LogEvent) (layout : String) : Option String :=
  e.text?.bind fun text => Template.fill? layout (.named (e.fields text) .null)

end LogEvent

/-! ## Outputs -/

/-- The two outputs of a program. -/
inductive Output where
  | standard
  | error
deriving DecidableEq, Repr

/-- Something that writes events to an output: those from the level `least` on and, if there is a greatest
level, up to it. -/
structure LogWriter where
  output : Output
  least : Int
  greatest : Option Int
  layout : String
deriving DecidableEq, Repr

/-- The writer takes events of a level. -/
def LogWriter.takes (w : LogWriter) (level : Int) : Bool :=
  decide (w.least ≤ level) &&
    match w.greatest with
    | some greatest => decide (level ≤ greatest)
    | none => true

/-- How events are treated: from which level on they are passed to the writers. -/
structure Logging where
  threshold : Int
  writers : List LogWriter
deriving DecidableEq, Repr

/-- What is asked for when logging is set up. -/
structure LogRequest where
  level : LevelChoice := .number infoLevel
  /-- The level from which events go to the error output. -/
  errorLevel : Int := warningLevel
  layout : String := "%(name)s - %(levelname)s - %(message)s"

namespace LogRequest

/-- The layout that a text gives. It must show something of an event; an empty text shows the message. -/
def layoutOf (text : String) : Except Failure String :=
  if text = "" then .ok "%(message)s"
  else if Template.hasNamed text.toList then .ok text
  else .error (.badLayout text)

/-- The level from which events go to the error output: never below that of debugging. -/
def errorFrom (r : LogRequest) : Int := max r.errorLevel debugLevel

/-- The writers that are asked for. -/
def writers (r : LogRequest) : List LogWriter :=
  [⟨.standard, debugLevel, some (r.errorFrom - 1), r.layout⟩, ⟨.error, r.errorFrom, none, r.layout⟩]

end LogRequest

namespace Logging

/-- Logging as it is before it is set up. -/
def initial : Logging := ⟨warningLevel, []⟩

/-- Logging with the threshold replaced and no writers. -/
def reset (_ : Logging) (threshold : Int) : Logging := ⟨threshold, []⟩

/-- Logging with one writer more, which comes last. -/
def add (l : Logging) (w : LogWriter) : Logging := { l with writers := l.writers ++ [w] }

/-- Sets logging up anew: the writers of earlier setups are dropped. -/
def configure (l : Logging) (r : LogRequest) : Logging :=
  r.writers.foldl add (l.reset r.level.level)

/-- The writers that write an event of a level. -/
def writersFor (l : Logging) (level : Int) : List LogWriter :=
  if level < l.threshold then [] else l.writers.filter (·.takes level)

/-- The outputs to which an event of a level is written, once for each time it is written. -/
def outputsFor (l : Logging) (level : Int) : List Output := (l.writersFor level).map LogWriter.output

/-- What an event adds to an output. Each text is followed by a line end. A writer whose layout cannot show
the event leaves it out; that it also complains of it on the error output is not told here. -/
def textOn (l : Logging) (output : Output) (e : LogEvent) : String :=
  String.join <|
    ((l.writersFor e.level).filter fun w => w.output == output).filterMap fun w =>
      (e.shownBy? w.layout).map (· ++ "\n")

/-- The lines that events leave on an output. -/
def linesOn (l : Logging) (output : Output) (events : List LogEvent) : List String :=
  Text.lines (String.join (events.map (l.textOn output)))

end Logging

end SchemaRegistry
