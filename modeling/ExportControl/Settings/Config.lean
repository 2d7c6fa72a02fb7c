/-
ExportControl.Settings.Config — how the program is set up.

* `Config.load` reads the settings from the environment; each has a default.
* `Config.socket` is the address that the service listens on.
* `Config.logFilter` is the filter in use.
-/
import ExportControl.Settings.Address
import ExportControl.Settings.Environment
import ExportControl.Settings.LogFilter

namespace ExportControl

/-- The stage that the program runs in. -/
inductive Stage where
  | development
  | test
  | production
  deriving DecidableEq, Repr

namespace Stage

/-- The name of a stage. -/
def label : Stage → String
  | development => "Development"
  | test => "Test"
  | production => "Production"

/-- The stage of a name: letters of any case, blanks around it. Any other name means
development. -/
def ofName (name : String) : Stage :=
  match String.ofList ((Text.trimChars name.toList).map Char.toLower) with
  | "prod" | "production" => production
  | "test" | "ci" => test
  | _ => development

end Stage

/-- The settings. -/
structure Config where
  stage : Stage
  host : String
  port : UInt16
  logLevel : String
  /-- The file that the catalog is read from. -/
  seedPath : Option String
  /-- Where products are shown to case workers. -/
  caseBaseUrl : Option String
  deriving DecidableEq, Repr

/-- Why there are no settings. -/
inductive ConfigError where
  | invalidPort
  | invalidHost
  | invalidCaseBaseUrl (value : String)
  deriving DecidableEq, Repr

/-- What is said about the error. -/
def ConfigError.message : ConfigError → String
  | invalidPort => "APP_PORT must be a valid u16"
  | invalidHost => "APP_HOST must parse to an IPv4 or IPv6 address"
  | invalidCaseBaseUrl value =>
    "APP_CASE_BASE_URL must start with http:// or https:// (got '" ++ value ++ "')"

/-- A log filter that cannot be read. -/
structure FilterError where
  value : String
  deriving DecidableEq, Repr

/-- What is said about the filter. -/
def FilterError.message (e : FilterError) : String :=
  "invalid log level/filter '" ++ e.value ++ "': unable to build EnvFilter"

namespace Config

/-- A port: a number below 65536. -/
def port? (s : String) : Option UInt16 :=
  (signedNatural? s.toList).bind fun n =>
    if n < UInt16.size then some (UInt16.ofNat n) else none

/-- The value of a variable without the blanks around it, unless nothing is left. -/
def filled? (environment : Environment) (name : String) : Option String :=
  ((environment.value? name).map Text.trim).filter (· ≠ "")

/-- Whether a text names a web address. -/
def isWebUrl (url : String) : Bool := url.startsWith "http://" || url.startsWith "https://"

/-- Where products are shown, as the environment has it. -/
def baseUrl (environment : Environment) : Except ConfigError (Option String) :=
  match filled? environment "APP_CASE_BASE_URL" with
  | none => .ok none
  | some url => if isWebUrl url then .ok (some url) else .error (.invalidCaseBaseUrl url)

/-- Reads the settings from the environment. -/
def load (environment : Environment) : Except ConfigError Config := do
  let value (name default : String) := (environment.value? name).getD default
  let port ←
    match port? (value "APP_PORT" "3000") with
    | some port => .ok port
    | none => .error .invalidPort
  let caseBaseUrl ← baseUrl environment
  return {
    stage := .ofName (value "APP_ENV" "development")
    host := value "APP_HOST" "127.0.0.1"
    port
    logLevel := value "APP_LOG_LEVEL" "info"
    seedPath := filled? environment "APP_SEED_PATH"
    caseBaseUrl }

/-- The address of a host: a name for the machine itself, or an address. -/
def hostAddress? (host : String) : Option Address :=
  if host.toList.map Char.toLower = "localhost".toList then some (.v4 127 0 0 1)
  else Address.parse? host

/-- The address that a service on a host and port listens on. -/
def socketOf (host : String) (port : UInt16) : Except ConfigError Socket :=
  match hostAddress? host with
  | some address => .ok { address, port }
  | none => .error .invalidHost

/-- The address that the service listens on. -/
def socket (config : Config) : Except ConfigError Socket := socketOf config.host config.port

/-- The filter in use: the one of the environment if it can be read, else the one that is set. -/
def filterOf (environment : Environment) (logLevel : String) : Except FilterError String :=
  match (environment.value? "RUST_LOG").filter LogFilter.isSound with
  | some filter => .ok filter
  | none => if LogFilter.isSound logLevel then .ok logLevel else .error ⟨logLevel⟩

@[inherit_doc filterOf]
def logFilter (config : Config) (environment : Environment) : Except FilterError String :=
  filterOf environment config.logLevel

end Config

end ExportControl
