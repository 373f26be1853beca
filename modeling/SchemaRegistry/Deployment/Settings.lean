import SchemaRegistry.Deployment.Environment
import SchemaRegistry.Json.Basic
import SchemaRegistry.Text.Blank
import SchemaRegistry.Text.Split

/-!
# Settings of the service

Where the database is, which environment the service runs in, how much it logs and which sites may call it.
The values are taken as they stand. Only the list of sites is read further: it is separated by commas, and a
lone star allows every site.
-/

namespace SchemaRegistry

/-- The settings of the service. -/
structure Settings where
  databaseUrl : String
  appEnvironment : String
  logLevel : String
  /-- The sites that may call the service, separated by commas. -/
  origins : String
deriving DecidableEq, Repr

namespace Settings

/-- The settings that an environment makes. -/
def ofEnvironment (env : Environment) : Settings where
  databaseUrl := env.getAnyCase "DATABASE_URL" "sqlite:///./schemaguard.db"
  appEnvironment := env.getAnyCase "APP_ENV" "development"
  logLevel := env.getAnyCase "LOG_LEVEL" "INFO"
  origins := env.getAnyCase "CORS_ORIGINS" "*"

/-- The sites that may call the service. A part that is blank names none. -/
def allowedOrigins (s : Settings) : List String :=
  if Text.trimSpace s.origins = "*" then ["*"]
  else
    ((Text.splitOn ',' s.origins.toList).map fun part => Text.trimSpace (String.ofList part)).filter
      fun origin => !origin.isEmpty

/-- The settings as JSON. -/
def toJson (s : Settings) : Json :=
  .obj
    [("DATABASE_URL", .str s.databaseUrl), ("APP_ENV", .str s.appEnvironment),
     ("LOG_LEVEL", .str s.logLevel), ("CORS_ORIGINS", .str s.origins)]

end Settings

end SchemaRegistry
