import Recommender.Payload.Field
import Recommender.Text.Case
import Recommender.Text.Letter
import Recommender.Text.Utf8

/-!
# Settings

The settings of a service come from its environment: a variable sets the setting of its name behind
the lead `RECO_`, in any case of letters.  The name and the port of the service are given by the
service itself and not by the environment.
-/

namespace Recommender

/-- The settings of a service. -/
structure Settings where
  environment : String := "local"
  logLevel : String := "info"
  version : String := "1.0.0"
  rulesAddress : String := "postgres://localhost:5432/recommendations"
  transactionsAddress : String := "postgres://localhost:5432/transactions"
  poolMinSize : Int := 2
  poolMaxSize : Int := 10
  commandTimeout : Int := 30
  serviceName : String
  port : Int
  host : String := "0.0.0.0"
  deriving DecidableEq, Repr

namespace Settings

/-- The lead of the variables that set settings. -/
def lead : String := "reco_"

/-- A text as the system keeps it. -/
def keep (s : String) : Except Failure String :=
  (Utf8.kept? s).elim (.error .unencodable) .ok

/-- Set a variable.  Its name and its value are texts without the character zero, and the name is
not empty and has no equals sign. -/
def setVariable (name : String) (value : Json) : Except Failure (String × String) := do
  let name ← keep name
  match value with
  | .str s => do
    let value ← keep s
    if name.contains '\x00' || value.contains '\x00' || name.contains '=' then throw .unreadable
    if name = "" then throw .refused
    return (name, value)
  | _ => throw .mistyped

/-- Set the variables of an environment. -/
def readEnvironment (given : List (String × Json)) : Except Failure (List (String × String)) :=
  given.mapM fun v => setVariable v.1 v.2

/-- The settings that an environment sets, by name; of variables that differ in case only, the last
one counts. -/
def ofEnvironment (environment : List (String × String)) : List (String × Json) :=
  Assoc.ofPairs (environment.filterMap fun v =>
    let name := asciiLower v.1
    if name.startsWith lead then some ((name.drop lead.length).toString, .str v.2) else none)

/-- The names of the settings that an environment can set. -/
def names : List String :=
  ["env", "log_level", "version", "postgres_dsn", "transactions_dsn", "pool_min_size",
    "pool_max_size", "command_timeout", "host"]

/-- The variable that sets a setting. -/
def variableOf (name : String) : String :=
  asciiUpper (lead ++ name)

/-- Read the settings of a service. -/
def read (serviceName port : Json) (environment : List (String × String)) : Checked Settings :=
  let set := ofEnvironment environment
  let given := [("service_name", serviceName), ("port", port)]
  let text (name fallback : String) := Field.optional name fallback Field.text set
  let number (name : String) (fallback : Int) := Field.optional name fallback Field.integer set
  .apply (.apply (.apply (.apply (.apply (.apply (.apply (.apply (.apply (.apply (.apply (.ok mk)
    (text "env" "local"))
    (text "log_level" "info"))
    (text "version" "1.0.0"))
    (text "postgres_dsn" "postgres://localhost:5432/recommendations"))
    (text "transactions_dsn" "postgres://localhost:5432/transactions"))
    (number "pool_min_size" 2))
    (number "pool_max_size" 10))
    (number "command_timeout" 30))
    (Field.required "service_name" Field.text given))
    (Field.required "port" Field.integer given))
    (text "host" "0.0.0.0")

/-- The settings as an object. -/
def toJson (s : Settings) : Json :=
  .obj [("env", .str s.environment), ("log_level", .str s.logLevel), ("version", .str s.version),
    ("postgres_dsn", .str s.rulesAddress), ("transactions_dsn", .str s.transactionsAddress),
    ("pool_min_size", .int s.poolMinSize), ("pool_max_size", .int s.poolMaxSize),
    ("command_timeout", .int s.commandTimeout), ("service_name", .str s.serviceName),
    ("port", .int s.port), ("host", .str s.host)]

/-! ## The recommendation service -/

/-- The name of the recommendation service. -/
def recommendationsName : String := "recommendations"

/-- The port of the recommendation service. -/
def recommendationsPort : Int := 8013

/-- What the log level may be, in upper case: the levels, and two names that stand beside them. -/
def logLevels : List String :=
  ["CRITICAL", "FATAL", "ERROR", "WARN", "WARNING", "INFO", "DEBUG", "NOTSET", "BASIC_FORMAT",
    "_STYLES"]

/-- Settings with a known log level. -/
def withKnownLevel (s : Settings) : Except Failure Settings :=
  if logLevels.contains (uppered s.logLevel) then .ok s else .error .unknownName

/-- Settings with a version to describe the service by. -/
def withVersion (s : Settings) : Except Failure Settings :=
  if s.version = "" then .error .incomplete else .ok s

/-- The settings of a service that is to be built: its log level has to be known, and it has to have
a version. -/
def forService (serviceName port : Json) (environment : List (String × String)) :
    Except Failure Settings := do
  let settings ← (read serviceName port environment).toResult
  let settings ← settings.withKnownLevel
  settings.withVersion

/-- The settings of the recommendation service. -/
def forRecommendations (environment : List (String × String)) : Except Failure Settings :=
  forService (.str recommendationsName) (.int recommendationsPort) environment

/-- What the server of a service is started with. -/
structure Launch where
  host : String
  port : Int
  logLevel : String
  deriving DecidableEq, Repr

/-- The launch of a service. -/
def launch (s : Settings) : Launch :=
  ⟨s.host, s.port, lowered s.logLevel⟩

end Settings

end Recommender
