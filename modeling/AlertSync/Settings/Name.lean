import AlertSync.Numeral.Decimal
import AlertSync.Settings

/-!
# The names of settings

A setting is given on the command line, by a long name and for some a letter, or by a variable of
the environment. Either gives a text, which is read by what the setting holds.
-/

namespace AlertSync

/-- What can be set. -/
inductive Setting
  | debug
  | listenAddress
  | metricsUrl
  | scrapeFile
  | ruleFile
  | cadvisorPort
  | nodeExporterPort
  | rancherExporterPort
  | alertingUrl
  | routeFile
  | platformUrl
  | accessKey
  | secretKey
  | targetInterval
  | stateInterval
  | reloadDelay
  | requestTimeout
  | storeType
  | databasePath
  deriving DecidableEq, Repr

/-- Why the arguments and the environment give no settings. -/
inductive Refusal
  | unknownArgument (argument : String)
  /-- A setting is named and its value left out. -/
  | missingValue (x : Setting)
  /-- The value is none of those that are possible. -/
  | impossibleValue (x : Setting) (value : String)
  /-- The value is not a number of the setting's range. -/
  | notNumber (x : Setting) (value : String)
  /-- A setting is given twice on the command line. -/
  | repeated (x : Setting)
  /-- A value is given to a name that takes none. -/
  | needlessValue (name value : String)
  | helpAsked
  | versionAsked
  deriving DecidableEq, Repr

namespace Setting

/-- The settings in the order in which they are listed. -/
def all : List Setting :=
  [debug, listenAddress, metricsUrl, scrapeFile, ruleFile, cadvisorPort, nodeExporterPort,
   rancherExporterPort, alertingUrl, routeFile, platformUrl, accessKey, secretKey, targetInterval,
   stateInterval, reloadDelay, requestTimeout, storeType, databasePath]

/-- The name on the command line, after two hyphens. -/
def long : Setting → String
  | debug => "debug"
  | listenAddress => "listen-addr"
  | metricsUrl => "prometheus-url"
  | scrapeFile => "prometheus-config"
  | ruleFile => "prometheus-rule"
  | cadvisorPort => "cadvisor-port"
  | nodeExporterPort => "node-exporter-port"
  | rancherExporterPort => "rancher-exporter-port"
  | alertingUrl => "alertmanager-url"
  | routeFile => "alertmanager-config"
  | platformUrl => "cattle-url"
  | accessKey => "cattle-access-key"
  | secretKey => "cattle-secret-key"
  | targetInterval => "sync-interval-sec"
  | stateInterval => "state-interval-sec"
  | reloadDelay => "reload-delay-sec"
  | requestTimeout => "request-timeout-sec"
  | storeType => "store"
  | databasePath => "sqlite-path"

/-- The letter on the command line, after one hyphen. -/
def letter? : Setting → Option Char
  | debug => some 'd'
  | listenAddress => some 'a'
  | metricsUrl => some 'p'
  | targetInterval => some 'i'
  | _ => none

/-- The variable of the environment. -/
def variableName : Setting → String
  | debug => "DEBUG"
  | listenAddress => "LISTEN_ADDR"
  | metricsUrl => "PROMETHEUS_URL"
  | scrapeFile => "PROMETHEUS_CONFIG"
  | ruleFile => "PROMETHEUS_RULE"
  | cadvisorPort => "CADVISOR_PORT"
  | nodeExporterPort => "NODE_EXPORTER_PORT"
  | rancherExporterPort => "RANCHER_EXPORTER_PORT"
  | alertingUrl => "ALERTMANAGER_URL"
  | routeFile => "ALERTMANAGER_CONFIG"
  | platformUrl => "CATTLE_URL"
  | accessKey => "CATTLE_ACCESS_KEY"
  | secretKey => "CATTLE_SECRET_KEY"
  | targetInterval => "SYNC_INTERVAL_SEC"
  | stateInterval => "STATE_INTERVAL_SEC"
  | reloadDelay => "RELOAD_DELAY_SEC"
  | requestTimeout => "REQUEST_TIMEOUT_SEC"
  | storeType => "STORE_BACKEND"
  | databasePath => "SQLITE_PATH"

/-- What the setting is for, in a line of help. -/
def purpose : Setting → String
  | debug => "Debug logging"
  | listenAddress => "Address of the health and metrics endpoint"
  | metricsUrl => "Prometheus URL"
  | scrapeFile => "Prometheus configuration file holding the scrape configs"
  | ruleFile => "Prometheus alerting rule file"
  | alertingUrl => "Alertmanager URL"
  | routeFile => "Alertmanager configuration file holding routes and receivers"
  | platformUrl => "Rancher API URL"
  | targetInterval => "Prometheus target synchronize interval"
  | stateInterval => "Alert state poll interval"
  | reloadDelay => "Wait before asking a backend to reload a freshly written file"
  | requestTimeout => "Bound on every backend and platform request"
  | storeType => "Object store backend"
  | _ => ""

/-- Whether naming the setting is enough. -/
def isFlag (x : Setting) : Bool := x == debug

/-- The setting with a given long name. -/
def ofLong? (name : String) : Option Setting := all.find? fun x => x.long == name

/-- The setting with a given letter. -/
def ofLetter? (c : Char) : Option Setting := all.find? fun x => x.letter? == some c

theorem ofLong?_long (x : Setting) : ofLong? x.long = some x := by cases x <;> decide

/-! ## Values -/

/-- A flag is one of two words. -/
def flag (x : Setting) (value : String) : Except Refusal Bool :=
  match value with
  | "true" => .ok true
  | "false" => .ok false
  | _ => .error (.impossibleValue x value)

/-- A path is not empty. -/
def path (x : Setting) (value : String) : Except Refusal String :=
  if value == "" then .error (.impossibleValue x value) else .ok value

/-- A type of store is told by its name. -/
def store (x : Setting) (value : String) : Except Refusal StoreType :=
  match StoreType.ofName? value with
  | some t => .ok t
  | none => .error (.impossibleValue x value)

/-- A number of seconds has 64 bits, and may have a plus sign. -/
def seconds (x : Setting) (value : String) : Except Refusal Nat :=
  let number? := match value.toList with
    | '+' :: r => Numeral.below? UInt64.size r
    | l => Numeral.below? UInt64.size l
  number?.elim (.error (.notNumber x value)) .ok

/-- A port has 16 bits, and may have a sign; only zero may have a minus sign. -/
def port (x : Setting) (value : String) : Except Refusal Nat :=
  let number? := match value.toList with
    | '+' :: r => Numeral.below? UInt16.size r
    | '-' :: r => Numeral.below? 1 r
    | l => Numeral.below? UInt16.size l
  number?.elim (.error (.notNumber x value)) .ok

end Setting

/-- The settings with one of them as a text tells. -/
def Settings.set (s : Settings) (x : Setting) (value : String) : Except Refusal Settings := do
  match x with
  | .debug => return { s with debug := ← x.flag value }
  | .listenAddress => return { s with listenAddress := value }
  | .metricsUrl => return { s with metricsUrl := value }
  | .scrapeFile => return { s with scrapeFile := ← x.path value }
  | .ruleFile => return { s with ruleFile := ← x.path value }
  | .cadvisorPort => return { s with ports.cadvisor := ← x.port value }
  | .nodeExporterPort => return { s with ports.nodeExporter := ← x.port value }
  | .rancherExporterPort => return { s with ports.rancherExporter := ← x.port value }
  | .alertingUrl => return { s with alertingUrl := value }
  | .routeFile => return { s with routeFile := ← x.path value }
  | .platformUrl => return { s with platformUrl := value }
  | .accessKey => return { s with accessKey := value }
  | .secretKey => return { s with secretKey := value }
  | .targetInterval => return { s with targetInterval := ← x.seconds value }
  | .stateInterval => return { s with stateInterval := ← x.seconds value }
  | .reloadDelay => return { s with reloadDelay := ← x.seconds value }
  | .requestTimeout => return { s with requestTimeout := ← x.seconds value }
  | .storeType => return { s with store.type := ← x.store value }
  | .databasePath => return { s with store.path := some (← x.path value) }

end AlertSync
