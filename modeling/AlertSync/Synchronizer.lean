import AlertSync.Artifact
import AlertSync.Outcome
import AlertSync.Reconcile
import AlertSync.Registry
import AlertSync.Route.Config
import AlertSync.Rule
import AlertSync.Scrape.Merge
import AlertSync.Yaml.Document
import AlertSync.Yaml.Printer

/-!
# Synchronizers

Three synchronizers generate a file from the store or the inventory and ask for a reload of the
backend that reads it; the fourth takes the states of the alerts over from the alerting backend. A
cycle is one sync and, if it asks for it, a reload after a delay.
-/

namespace AlertSync

/-- What is kept in agreement with the store and the backends. -/
inductive Synchronizer
  /-- The routing tree of the alerting backend. -/
  | route
  /-- The alerting rules of the metrics backend. -/
  | rule
  /-- The scrape jobs of the metrics backend. -/
  | target
  /-- The states of the alerts. -/
  | state
  deriving DecidableEq, Repr

/-- The files that are generated, and the ports at which hosts are scraped. -/
structure SyncSettings where
  routeFile : FilePath
  ruleFile : FilePath
  scrapeFile : FilePath
  ports : ExporterPorts
  deriving DecidableEq, Repr

namespace Synchronizer

/-- The word for a synchronizer. -/
def name : Synchronizer → String
  | route => "route"
  | rule => "rule"
  | target => "target"
  | state => "state"

def all : List Synchronizer := [route, rule, target, state]

/-- The synchronizer with a given name. -/
def ofName? (s : String) : Option Synchronizer := all.find? (fun x => x.name == s)

theorem ofName?_name (x : Synchronizer) : ofName? x.name = some x := by cases x <;> decide

/-- The file that a synchronizer generates. -/
def file? (x : Synchronizer) (s : SyncSettings) : Option FilePath :=
  match x with
  | route => some s.routeFile
  | rule => some s.ruleFile
  | target => some s.scrapeFile
  | state => none

/-- The configuration of the alerting backend for what is stored. -/
def buildRoutes : Operation RoutingConfig := do
  let settings ← Registry.alertConfig
  let alerts ← Registry.alerts none
  let recipients ← Registry.recipients none
  return .build settings alerts recipients

/-- Generates the routing tree. -/
def syncRoutes (file : FilePath) : Operation Outcome := do
  let config ← buildRoutes
  Artifact.write file (Yaml.text (Yaml.ofTree config.tree))
  return .reload

/-- The alerting rules for what is stored. -/
def buildRules : Operation RuleGroups := do
  let alerts ← Registry.alerts none
  return .ofAlerts alerts

/-- Generates the alerting rules. -/
def syncRules (file : FilePath) : Operation Outcome := do
  let rules ← buildRules
  Artifact.write file (Yaml.text (Yaml.ofTree rules.tree))
  return .reload

/-- The environments of the platform, each with its hosts. -/
def discover : Operation Inventory := do
  let environments ← Operation.ofProgram (.ask .environments)
  environments.mapM fun e => do
    let hosts ← Operation.ofProgram (.ask (.hosts e.id))
    return (e, hosts)

/-- The document that a text holds. -/
def document (text : String) : Except Error Yaml.Value :=
  match Yaml.value? text with
  | some d => .ok d
  | none => .error .yaml

/-- The text of a document. -/
def documentText (v : Yaml.Value) : Except Error String :=
  match Yaml.text? v with
  | some t => .ok t
  | none => .error .yaml

/-- Puts the scrape jobs of the inventory into the file that holds them. -/
def syncTargets (file : FilePath) (ports : ExporterPorts) : Operation Outcome := do
  let inventory ← discover
  let present ← Operation.ofProgram (.ask (.readFile file))
  let former ← Operation.ofExcept (document present)
  let merged ← Operation.ofExcept (mergeScrapeJobs former (ScrapeConfig.build inventory ports))
  Artifact.write file (← Operation.ofExcept (documentText merged))
  return .reload

/-- Removes the silence of an alert, and counts that if it succeeds. -/
def unsilence (a : Alert) : Program Unit := do
  let removed ← (Program.ask (.removeSilence a) : Program (Except Error Unit))
  match removed with
  | .ok () => Program.ask (.count .silenceRemoved)
  | .error _ => pure ()

/-- Stores what was observed of an alert, if that is anything new. A state change is counted, and a
silence that is left over is removed; the state stands even if that fails. -/
def settle (r : Reconciliation) : Program Unit := do
  if r.changed then
    if r.previous ≠ r.alert.state then
      Program.ask (.count (.transition r.previous r.alert.state))
    if r.removeSilence then unsilence r.alert
    let _ ← (Registry.updateAlert r.alert).outcome

/-- Takes the states of all alerts over that are not disabled, whatever becomes of each. -/
def syncStates : Operation Outcome := do
  let live ← Operation.ofProgram (.ask .liveAlerts)
  let alerts ← Registry.alerts none
  (alerts.filter fun a => !a.isDisabled).forM fun a => ExceptT.lift (settle (a.reconcile live))
  return .done

/-- One synchronization. -/
def sync (s : SyncSettings) : Synchronizer → Operation Outcome
  | route => syncRoutes s.routeFile
  | rule => syncRules s.ruleFile
  | target => syncTargets s.scrapeFile s.ports
  | state => syncStates

/-- Has the backend read the generated file again. -/
def reload : Synchronizer → Operation Unit
  | route => .ofProgram (.ask .reloadRoutes)
  | rule | target => .ofProgram (.ask .reloadMetrics)
  | state => return ()

/-- Counts the end of a cycle. -/
def record (x : Synchronizer) (result : CycleEnd) : Program Unit :=
  Program.ask (.count (.cycle x.name result))

/-- The reload that ends a cycle. -/
def reloadNow (x : Synchronizer) : Program Unit := do
  match ← x.reload.outcome with
  | .ok () => x.record .success
  | .error _ => x.record .reloadFailure

/-- The reload after a sync: after a delay, if there is to be one, and not if everything is to stop
before. -/
def reloadAfter (x : Synchronizer) (delay : Nat) : Program Unit := do
  let due ← if delay = 0 then pure true else (Program.ask (.pause delay) : Program Bool)
  if due then x.reloadNow

/-- What follows a sync in a cycle. -/
def conclude (x : Synchronizer) (delay : Nat) : Except Error Outcome → Program Unit
  | .ok .done => x.record .success
  | .ok .reload => x.reloadAfter delay
  | .error _ => x.record .failure

/-- One synchronization and the reload that it asks for. -/
def cycle (x : Synchronizer) (s : SyncSettings) (delay : Nat) : Program Unit := do
  let result ← (x.sync s).outcome
  x.conclude delay result

end Synchronizer

end AlertSync
