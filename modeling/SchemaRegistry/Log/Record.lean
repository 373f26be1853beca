import SchemaRegistry.Json.Basic

/-!
# Log records

What the registry reports of its work: a record has a severity, the part of the service that speaks, and a
text.
-/

namespace SchemaRegistry

/-- The severities that the service uses. -/
inductive Severity where
  | debug
  | info
  | warning
  | error
deriving DecidableEq, Repr

/-- The word of a severity. -/
def Severity.word : Severity → String
  | debug => "DEBUG"
  | info => "INFO"
  | warning => "WARNING"
  | error => "ERROR"

/-- The parts of the service that report. -/
inductive Reporter where
  | validator
  | introspection
  | registry
deriving DecidableEq, Repr

/-- The name under which a part reports. -/
def Reporter.name : Reporter → String
  | validator => "schemaguard.services.validator"
  | introspection => "schemaguard.services.introspection"
  | registry => "schemaguard.services.registry"

/-- A log record. -/
structure LogRecord where
  severity : Severity
  reporter : Reporter
  text : String
deriving DecidableEq, Repr

/-- A record as JSON. -/
def LogRecord.toJson (r : LogRecord) : Json :=
  .arr [.str r.severity.word, .str r.reporter.name, .str r.text]

end SchemaRegistry
