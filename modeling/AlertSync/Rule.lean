import AlertSync.Alert
import AlertSync.Duration
import AlertSync.SortedMap

/-!
# Alerting rules

The rules by which the metrics backend decides what fires: one for each alert that is not disabled,
with labels that identify the alert. `RuleGroups.ofAlerts` is the whole rule file.
-/

namespace AlertSync

/-- Reads a duration in its text form. -/
def Duration.ofForm? (f : Form) : Option Duration := f.text?.bind Duration.parse?

/-- The value that a duration is written as. -/
def Duration.tree (d : Duration) : Tree := .text d.text

/-- A rule of the metrics backend: what fires, when its query has held for how long. -/
structure Rule where
  alert : String
  expr : String
  hold : Option Duration
  labels : SortedMap String
  deriving DecidableEq

/-- The query on a health metric that fires while the value is not one: the environment and id of
the target, and the label and state that mean health. -/
def healthQuery (metric environment id label healthy : String) : String :=
  metric ++ "\x7benvironment_id=\"" ++ environment ++ "\", id=\"" ++ id ++ "\", " ++ label ++
    "=\"" ++ healthy ++ "\"\x7d != 1"

/-- The query that fires while an alert's target is unhealthy. -/
def Alert.query (a : Alert) : String :=
  match a.targetType with
  | .metric => a.metricRule.expr
  | .service =>
    healthQuery "rancher_service_health_status" a.environment a.targetId "health_state" "healthy"
  | .stack =>
    healthQuery "rancher_stack_health_status" a.environment a.targetId "health_state" "healthy"
  | .host => healthQuery "rancher_host_agent_state" a.environment a.targetId "state" "active"

namespace Rule

/-- The rule of an alert. A hold that is zero or no duration means that it fires at once. -/
def ofAlert (a : Alert) : Rule where
  alert := a.description
  expr := a.query
  hold := (Duration.parse? a.holdDuration).filter fun d => !d.isZero
  labels := .ofList [
    ("alert_id", a.id), ("severity", a.severity.name), ("description", a.description),
    ("target_type", a.targetType.name), ("environment", a.environment)]

/-- The value that a rule is written as. -/
def tree (r : Rule) : Tree :=
  .record <| [("alert", .text r.alert), ("expr", .text r.expr)] ++
    Tree.part? "for" (r.hold.map Duration.tree) ++ [("labels", .textRecord r.labels)]

def shape : Shape :=
  .record [("alert", .scalar), ("expr", .scalar), ("for", .scalar), ("labels", .map)]

/-- Reads a rule; its name and query must be given. -/
def ofForm? (f : Form) : Option Rule := do
  let ps ← f.parts? shape.names
  return {
    alert := ← Form.required? ps "alert" Form.text?
    expr := ← Form.required? ps "expr" Form.text?
    hold := ← Form.part? ps "for" none (Form.optional? Duration.ofForm?)
    labels := ← Form.part? ps "labels" .empty Form.textMap? }

end Rule

/-- Rules that are evaluated together. -/
structure RuleGroup where
  name : String
  rules : List Rule
  deriving DecidableEq

namespace RuleGroup

def tree (g : RuleGroup) : Tree :=
  .record [("name", .text g.name), ("rules", .list (g.rules.map Rule.tree))]

def shape : Shape := .record [("name", .scalar), ("rules", .list Rule.shape)]

/-- Reads a group; all of it must be given. -/
def ofForm? (f : Form) : Option RuleGroup := do
  let ps ← f.parts? shape.names
  return ⟨← Form.required? ps "name" Form.text?,
    ← Form.required? ps "rules" (Form.list? Rule.ofForm?)⟩

end RuleGroup

/-- The contents of a rule file. -/
structure RuleGroups where
  groups : List RuleGroup
  deriving DecidableEq

namespace RuleGroups

/-- The name of the one group that is kept. -/
def groupName : String := "rancher-rules"

/-- The rules of all alerts that are not disabled, in the order of the alerts. -/
def ofAlerts (alerts : List Alert) : RuleGroups :=
  ⟨[⟨groupName, (alerts.filter fun a => !a.isDisabled).map Rule.ofAlert⟩]⟩

def tree (g : RuleGroups) : Tree := .record [("groups", .list (g.groups.map RuleGroup.tree))]

def shape : Shape := .record [("groups", .list RuleGroup.shape)]

/-- Reads a rule file; its groups must be given. -/
def ofForm? (f : Form) : Option RuleGroups := do
  let ps ← f.parts? shape.names
  return ⟨← Form.required? ps "groups" (Form.list? RuleGroup.ofForm?)⟩

end RuleGroups

end AlertSync
