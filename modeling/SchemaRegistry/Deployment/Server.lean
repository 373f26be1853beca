import SchemaRegistry.Deployment.Environment
import SchemaRegistry.Failure
import SchemaRegistry.Text.Digits

/-!
# Settings of the server

How the processes that serve requests are run. The environment decides on the port, the number of workers and
the log level; everything else is fixed.
-/

namespace SchemaRegistry

/-- The settings of the server. Times are in seconds. -/
structure ServerSettings where
  /-- Where the application is found. -/
  application : String := "schemaguard.main:app"
  /-- The address to listen at. -/
  bind : String
  workers : Int
  workerClass : String := "uvicorn.workers.UvicornWorker"
  /-- The application is loaded before the workers are started. -/
  preload : Bool := false
  keepAlive : Nat := 5
  timeout : Nat := 30
  logLevel : String
  /-- Where requests are logged; a dash is the standard output. -/
  accessLog : String := "-"
  /-- Where errors are logged; a dash is the standard error output. -/
  errorLog : String := "-"
  accessFormat : String := "%(h)s \"%(r)s\" %(s)s %(b)sB %(D)sµs"
  /-- How long a worker may go on after it is told to stop. -/
  gracefulTimeout : Nat := 30
deriving DecidableEq, Repr

namespace ServerSettings

/-- The settings that an environment makes. The number of workers must be a whole number. -/
def ofEnvironment (env : Environment) : Except Failure ServerSettings :=
  let workers := env.get "WORKERS" "2"
  match Text.readInt workers with
  | .error .malformed => .error (.notInteger workers)
  | .error (.tooManyDigits count) => .error (.tooManyDigits count)
  | .ok count =>
    .ok
      { bind := "0.0.0.0:" ++ env.get "PORT" "8000"
        workers := count
        logLevel := Text.lower (env.get "LOG_LEVEL" "INFO") }

/-- The settings as JSON. -/
def toJson (s : ServerSettings) : Json :=
  .obj
    [("wsgi_app", .str s.application), ("bind", .str s.bind), ("workers", .int s.workers),
     ("worker_class", .str s.workerClass), ("preload_app", .bool s.preload),
     ("keepalive", .int s.keepAlive), ("timeout", .int s.timeout), ("loglevel", .str s.logLevel),
     ("accesslog", .str s.accessLog), ("errorlog", .str s.errorLog),
     ("access_log_format", .str s.accessFormat), ("graceful_timeout", .int s.gracefulTimeout)]

end ServerSettings

end SchemaRegistry
