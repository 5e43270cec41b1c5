import AlertSync.Store.Config
import AlertSync.Synchronizer

/-!
# Settings

What a process is told when it starts: where the backends, the platform and the generated files
are, how often it works, and where objects are kept.
-/

namespace AlertSync

/-- The settings of a process. All times are in seconds. -/
structure Settings where
  debug : Bool := false
  /-- Where the operational endpoint listens. -/
  listenAddress : String := "0.0.0.0:8888"
  metricsUrl : String := "http://prometheus:9090"
  scrapeFile : String := "/etc/prometheus/prometheus.yml"
  ruleFile : String := "/etc/prometheus/rules/rancher.yml"
  ports : ExporterPorts := .standard
  alertingUrl : String := "http://alertmanager:9093"
  routeFile : String := "/etc/alertmanager/config.yml"
  platformUrl : String := ""
  accessKey : String := ""
  secretKey : String := ""
  /-- The time between two looks at the inventory. -/
  targetInterval : Nat := 30
  /-- The time between two looks at the states of the alerts. -/
  stateInterval : Nat := 30
  /-- The time between a new file and the reload of the backend that reads it. -/
  reloadDelay : Nat := 10
  requestTimeout : Nat := 30
  store : StoreConfig := ⟨.memory, none⟩
  deriving DecidableEq, Repr

namespace Settings

/-- What holds where nothing is said. -/
def standard : Settings := {}

/-- The value that settings are shown as. The secret key is not shown. -/
def tree (s : Settings) : Tree :=
  .record
    [("debug", .flag s.debug),
     ("server", .record [("addr", .text s.listenAddress)]),
     ("prometheus", .record
       [("url", .text s.metricsUrl),
        ("config_file", .text s.scrapeFile),
        ("rule_file", .text s.ruleFile),
        ("cadvisor_port", .number s.ports.cadvisor),
        ("node_exporter_port", .number s.ports.nodeExporter),
        ("rancher_exporter_port", .number s.ports.rancherExporter)]),
     ("alertmanager", .record
       [("url", .text s.alertingUrl),
        ("config_file", .text s.routeFile)]),
     ("cattle", .record
       [("url", .text s.platformUrl),
        ("access_key", .text s.accessKey)]),
     ("sync", .record
       [("target_interval_sec", .number s.targetInterval),
        ("state_interval_sec", .number s.stateInterval),
        ("reload_delay_sec", .number s.reloadDelay),
        ("request_timeout_sec", .number s.requestTimeout)]),
     ("database", .record
       [("db_type", .text s.store.type.name),
        ("sqlite_path", (s.store.path.map Tree.text).getD .absent)])]

/-- The first thing that is wrong: a platform must be named, no interval and no timeout may be zero,
and a database needs a path. -/
def flaw? (s : Settings) : Option Misconfigured :=
  if s.platformUrl == "" then some .noPlatformUrl
  else if s.targetInterval == 0 || s.stateInterval == 0 then some .zeroInterval
  else if s.requestTimeout == 0 then some .zeroTimeout
  else s.store.flaw?

/-- Settings without a flaw, as they are. -/
def validate (s : Settings) : Except Error Settings :=
  match s.flaw? with
  | some cause => .error (.misconfigured cause)
  | none => .ok s

/-- What the synchronizers need of the settings. -/
def sync (s : Settings) : SyncSettings where
  routeFile := .ofText s.routeFile
  ruleFile := .ofText s.ruleFile
  scrapeFile := .ofText s.scrapeFile
  ports := s.ports

/-- Settings that pass are the ones without a flaw, and pass unchanged. -/
theorem validate_eq_ok_iff {s t : Settings} : s.validate = .ok t ↔ s.flaw? = none ∧ s = t := by
  unfold validate
  cases s.flaw? <;> simp

end Settings

end AlertSync
