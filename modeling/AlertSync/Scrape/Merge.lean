import AlertSync.Error
import AlertSync.Scrape
import AlertSync.Yaml.Value

/-!
# Merging scrape jobs into a configuration file

The metrics backend's configuration file belongs to others, too. `mergeScrapeJobs` replaces the
managed jobs in it and leaves everything else as it is: other jobs behind the managed ones, other
entries of the file where they were.
-/

namespace AlertSync

open Yaml (Value)

namespace ScrapeConfig

/-- The entry in which a configuration file holds its jobs. -/
def jobsKey : String := "scrape_configs"

/-- The entry in which a job holds its name. -/
def nameKey : String := "job_name"

/-- Whether a value is a string. -/
def isKey (key : String) : Value → Bool
  | .string s => s == key
  | _ => false

/-- What a mapping holds under a key, if the value is a mapping under whatever tags. -/
def held? (key : String) (v : Value) : Option Value :=
  match v.untagged with
  | .mapping entries => (entries.find? fun e => isKey key e.1).map (·.2)
  | _ => none

/-- Whether a value is a job under one of the managed names. -/
def isManaged (v : Value) : Bool :=
  match (held? nameKey v).map Value.untagged with
  | some (.string name) => managedJobs.contains name
  | _ => false

/-- The jobs of a file: the managed ones, and those of the others that were there. -/
def mergedJobs (managed : List ScrapeConfig) (present : Value) : Value :=
  let others := match present with
    | .sequence jobs => jobs.filter fun v => !isManaged v
    | _ => []
  .sequence (managed.map (fun c => Yaml.ofTree c.tree) ++ others)

/-- The entries of a file with the managed jobs in place of those that were there. -/
def mergedEntries (managed : List ScrapeConfig) : List (Value × Value) → List (Value × Value)
  | [] => [(.string jobsKey, mergedJobs managed .null)]
  | (k, v) :: rest =>
    if isKey jobsKey k then (k, mergedJobs managed v) :: rest
    else (k, v) :: mergedEntries managed rest

end ScrapeConfig

/-- The configuration file with the managed jobs replaced. -/
def mergeScrapeJobs (document : Value) (managed : List ScrapeConfig) : Except Error Value :=
  match document with
  | .null => .ok (.mapping (ScrapeConfig.mergedEntries managed []))
  | .mapping entries => .ok (.mapping (ScrapeConfig.mergedEntries managed entries))
  | _ => .error (.misconfigured .scrapeFileNotMapping)

end AlertSync
