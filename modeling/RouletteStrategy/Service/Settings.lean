import RouletteStrategy.Json.Basic
import RouletteStrategy.Numeric.LooseInteger
import RouletteStrategy.Text.Lower

/-! # Settings of the service -/

namespace RouletteStrategy

structure Settings where
  appName : String := "Strategy Builder Engine"
  appVersion : String := "1.0.0"
  environment : String := "development"
  apiHost : String := "0.0.0.0"
  apiPort : Int := 8000
  storageBackend : String := "memory"
  databaseHost : String := "localhost"
  databasePort : Int := 27017
  databaseUser : String := ""
  databasePassword : String := ""
  databaseName : String := "roleta_db"
  databaseCollection : String := "strategies"
  databaseMaxPool : Int := 10
  databaseMinPool : Int := 1
  corsOrigins : List String :=
    ["http://localhost:3000", "http://localhost:8080", "http://127.0.0.1:3000"]
  maxHistory : Int := 500
  logLevel : String := "INFO"
  logFile : String := "api.log"

namespace Settings

/-- Floats are integers only within this bound. -/
def floatBound : Nat := 1 <<< 63

def integer? : Json → Option Int
  | .int i => some i
  | .bool b => some (if b then 1 else 0)
  | .float x =>
    if x.isInteger && decide (x.truncate.natAbs < floatBound) then some x.truncate else none
  | .str s => LooseInteger.read? s
  | _ => none

def texts? : Json → Option (List String)
  | .arr vs => vs.mapM Json.asString?
  | _ => none

/-- Gives a setting a value, unless the name is unknown or the value has another type. -/
def set? (s : Settings) (key : String) (v : Json) : Option Settings :=
  match key with
  | "APP_NAME" => v.asString?.map fun x => { s with appName := x }
  | "APP_VERSION" => v.asString?.map fun x => { s with appVersion := x }
  | "ENVIRONMENT" => v.asString?.map fun x => { s with environment := x }
  | "API_HOST" => v.asString?.map fun x => { s with apiHost := x }
  | "API_PORT" => (integer? v).map fun x => { s with apiPort := x }
  | "STORAGE_BACKEND" => v.asString?.map fun x => { s with storageBackend := x }
  | "MONGODB_HOST" => v.asString?.map fun x => { s with databaseHost := x }
  | "MONGODB_PORT" => (integer? v).map fun x => { s with databasePort := x }
  | "MONGODB_USER" => v.asString?.map fun x => { s with databaseUser := x }
  | "MONGODB_PASSWORD" => v.asString?.map fun x => { s with databasePassword := x }
  | "MONGODB_DATABASE" => v.asString?.map fun x => { s with databaseName := x }
  | "MONGODB_COLLECTION" => v.asString?.map fun x => { s with databaseCollection := x }
  | "MONGODB_MAX_POOL_SIZE" => (integer? v).map fun x => { s with databaseMaxPool := x }
  | "MONGODB_MIN_POOL_SIZE" => (integer? v).map fun x => { s with databaseMinPool := x }
  | "CORS_ORIGINS" => (texts? v).map fun x => { s with corsOrigins := x }
  | "MAX_HISTORY_SIZE" => (integer? v).map fun x => { s with maxHistory := x }
  | "LOG_LEVEL" => v.asString?.map fun x => { s with logLevel := x }
  | "LOG_FILE" => v.asString?.map fun x => { s with logFile := x }
  | _ => none

/-- The settings with some of them given; none if one of them is refused. -/
def read? (values : Json.Object) : Option Settings :=
  values.foldlM (fun s kv => s.set? kv.1 kv.2) {}

/-- With a user and a password the address of a cluster, else of a single host. -/
def databaseUrl (s : Settings) : String :=
  if s.databaseUser ≠ "" ∧ s.databasePassword ≠ "" then
    "mongodb+srv://" ++ s.databaseUser ++ ":" ++ s.databasePassword ++ "@" ++ s.databaseHost ++
      "/?retryWrites=true&w=majority"
  else
    "mongodb://" ++ s.databaseHost ++ ":" ++ toString s.databasePort ++ "/" ++ s.databaseName

def usesDatabase (s : Settings) : Bool := Text.fold s.storageBackend == "mongo"

end Settings
end RouletteStrategy
