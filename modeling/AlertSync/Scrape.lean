import AlertSync.Inventory
import AlertSync.Numeral.Decimal
import AlertSync.SortedMap

/-!
# Scrape jobs

What the metrics backend collects: three jobs that are built from the inventory of the platform,
each with one group of targets for each environment. The third job asks only hosts that publish its
port.
-/

namespace AlertSync

/-- The ports at which the exporters of a host are collected. -/
structure ExporterPorts where
  cadvisor : Nat
  nodeExporter : Nat
  rancherExporter : Nat
  deriving DecidableEq, Repr

/-- The ports where nothing else is said. -/
def ExporterPorts.standard : ExporterPorts := ⟨9101, 9100, 9173⟩

/-- Targets that share their labels. -/
structure TargetGroup where
  targets : List String
  labels : SortedMap String
  deriving DecidableEq

namespace TargetGroup

def tree (g : TargetGroup) : Tree :=
  .record [("targets", .texts g.targets), ("labels", .textRecord g.labels)]

def shape : Shape := .record [("targets", .list .scalar), ("labels", .map)]

def ofForm? (f : Form) : Option TargetGroup := do
  let ps ← f.parts? shape.names
  return ⟨← Form.part? ps "targets" [] (Form.list? Form.text?),
    ← Form.part? ps "labels" .empty Form.textMap?⟩

/-- The group of an environment: its hosts at a port, labelled with the environment. -/
def ofHosts (environment : Environment) (hosts : List Host) (port : Nat) : TargetGroup where
  targets := hosts.map fun h => h.agentAddress ++ ":" ++ String.ofList (Numeral.decimal port)
  labels := .ofList
    [("environment_id", environment.id), ("environment_name", environment.name)]

end TargetGroup

/-- A job of the metrics backend. -/
structure ScrapeConfig where
  jobName : String
  groups : List TargetGroup
  deriving DecidableEq

namespace ScrapeConfig

def tree (c : ScrapeConfig) : Tree :=
  .record [("job_name", .text c.jobName), ("static_configs", .list (c.groups.map TargetGroup.tree))]

def shape : Shape := .record [("job_name", .scalar), ("static_configs", .list TargetGroup.shape)]

/-- Reads a job; its name must be given. -/
def ofForm? (f : Form) : Option ScrapeConfig := do
  let ps ← f.parts? shape.names
  return ⟨← Form.required? ps "job_name" Form.text?,
    ← Form.part? ps "static_configs" [] (Form.list? TargetGroup.ofForm?)⟩

def cadvisorJob : String := "cadvisor"
def nodeExporterJob : String := "node-exporter"
def rancherExporterJob : String := "rancher-health-exporter"

/-- The names of the jobs that are built here. -/
def managedJobs : List String := [cadvisorJob, nodeExporterJob, rancherExporterJob]

/-- The jobs for an inventory. -/
def build (inventory : Inventory) (ports : ExporterPorts) : List ScrapeConfig :=
  [⟨cadvisorJob, inventory.map fun (e, hosts) => .ofHosts e hosts ports.cadvisor⟩,
   ⟨nodeExporterJob, inventory.map fun (e, hosts) => .ofHosts e hosts ports.nodeExporter⟩,
   ⟨rancherExporterJob, inventory.map fun (e, hosts) =>
      .ofHosts e (hosts.filter fun h => h.publishes ports.rancherExporter) ports.rancherExporter⟩]

end ScrapeConfig

end AlertSync
