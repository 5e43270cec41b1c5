import AlertSync.AlertState
import AlertSync.Form
import AlertSync.Timestamp
import AlertSync.Tree

/-!
# Alerts

An alert is what a user wants to be told about: a target that is unhealthy or a query that fires,
for how long it must hold, and who hears of it. Beside that it carries the lifecycle state that was
last observed, and, while it fires, when that began and ends.

Each type has `tree`, the value that it is written as, and `ofForm?`, which reads it back.
-/

namespace AlertSync

/-- How urgent an alert is. -/
inductive Severity
  | info
  | warning
  | critical
  deriving DecidableEq, Repr

namespace Severity

def name : Severity → String
  | info => "info"
  | warning => "warning"
  | critical => "critical"

def all : List Severity := [info, warning, critical]

/-- The severity with a given name. -/
def ofName? (s : String) : Option Severity := all.find? (fun a => a.name == s)

theorem ofName?_name (a : Severity) : ofName? a.name = some a := by cases a <;> decide

end Severity

/-- What an alert watches. -/
inductive TargetType
  | host
  | stack
  | service
  | metric
  deriving DecidableEq, Repr

namespace TargetType

def name : TargetType → String
  | host => "host"
  | stack => "stack"
  | service => "service"
  | metric => "metric"

def all : List TargetType := [host, stack, service, metric]

/-- The target type with a given name. -/
def ofName? (s : String) : Option TargetType := all.find? (fun a => a.name == s)

theorem ofName?_name (a : TargetType) : ofName? a.name = some a := by cases a <;> decide

end TargetType

/-- For how long a target must be unhealthy. -/
structure HealthRule where
  holdDuration : String
  deriving DecidableEq, Repr

namespace HealthRule

def none : HealthRule := ⟨""⟩

def tree (r : HealthRule) : Tree := .record [("holdDuration", .text r.holdDuration)]

def ofForm? (f : Form) : Option HealthRule := do
  let ps ← f.parts? ["holdDuration"]
  return ⟨← Form.part? ps "holdDuration" "" Form.text?⟩

end HealthRule

/-- Which query must fire, and for how long. -/
structure MetricRule where
  expr : String
  holdDuration : String
  deriving DecidableEq, Repr

namespace MetricRule

def none : MetricRule := ⟨"", ""⟩

def tree (r : MetricRule) : Tree :=
  .record [("expr", .text r.expr), ("holdDuration", .text r.holdDuration)]

def ofForm? (f : Form) : Option MetricRule := do
  let ps ← f.parts? ["expr", "holdDuration"]
  return ⟨← Form.part? ps "expr" "" Form.text?, ← Form.part? ps "holdDuration" "" Form.text?⟩

end MetricRule

/-- How long the first notification waits, and after how long it is repeated. -/
structure AdvancedOptions where
  initialWait : String
  repeatInterval : String
  deriving DecidableEq, Repr

namespace AdvancedOptions

def none : AdvancedOptions := ⟨"", ""⟩

def tree (o : AdvancedOptions) : Tree :=
  .record [("initialWait", .text o.initialWait), ("repeatInterval", .text o.repeatInterval)]

def ofForm? (f : Form) : Option AdvancedOptions := do
  let ps ← f.parts? ["initialWait", "repeatInterval"]
  return ⟨← Form.part? ps "initialWait" "" Form.text?,
    ← Form.part? ps "repeatInterval" "" Form.text?⟩

end AdvancedOptions

/-- What a user wants to be told about, and the lifecycle state observed for it. -/
structure Alert where
  id : String
  environment : String
  description : String
  severity : Severity
  targetType : TargetType
  targetId : String
  hostRule : HealthRule
  serviceRule : HealthRule
  stackRule : HealthRule
  metricRule : MetricRule
  advancedOptions : AdvancedOptions
  recipientId : String
  state : AlertState
  startsAt : Option Timestamp
  endsAt : Option Timestamp
  deriving DecidableEq

namespace Alert

/-- The hold duration of the rule that the target type selects. -/
def holdDuration (a : Alert) : String :=
  match a.targetType with
  | .host => a.hostRule.holdDuration
  | .stack => a.stackRule.holdDuration
  | .service => a.serviceRule.holdDuration
  | .metric => a.metricRule.holdDuration

def isDisabled (a : Alert) : Bool := a.state == .disabled

/-- The value that an alert is written as. -/
def tree (a : Alert) : Tree :=
  .record <|
    [("id", .text a.id), ("environment", .text a.environment),
      ("description", .text a.description), ("severity", .text a.severity.name),
      ("targetType", .text a.targetType.name), ("targetId", .text a.targetId),
      ("hostRule", a.hostRule.tree), ("serviceRule", a.serviceRule.tree),
      ("stackRule", a.stackRule.tree), ("metricRule", a.metricRule.tree),
      ("advancedOptions", a.advancedOptions.tree), ("recipientId", .text a.recipientId),
      ("state", .text a.state.name)] ++
    Tree.part? "startsAt" (a.startsAt.map fun t => .text t.text) ++
    Tree.part? "endsAt" (a.endsAt.map fun t => .text t.text)

/-- A moment in its text form. -/
def timestamp? (f : Form) : Option Timestamp := f.text?.bind Timestamp.parse?

/-- The names of the parts of an alert, in their order. -/
def partNames : List String :=
  ["id", "environment", "description", "severity", "targetType", "targetId", "hostRule",
    "serviceRule", "stackRule", "metricRule", "advancedOptions", "recipientId", "state",
    "startsAt", "endsAt"]

/-- Reads an alert. Environment, description, target type and recipient must be given. -/
def ofForm? (f : Form) : Option Alert := do
  let ps ← f.parts? partNames
  return {
    id := ← Form.part? ps "id" "" Form.text?
    environment := ← Form.required? ps "environment" Form.text?
    description := ← Form.required? ps "description" Form.text?
    severity := ← Form.part? ps "severity" .critical (Form.word? Severity.ofName?)
    targetType := ← Form.required? ps "targetType" (Form.word? TargetType.ofName?)
    targetId := ← Form.part? ps "targetId" "" Form.text?
    hostRule := ← Form.part? ps "hostRule" .none HealthRule.ofForm?
    serviceRule := ← Form.part? ps "serviceRule" .none HealthRule.ofForm?
    stackRule := ← Form.part? ps "stackRule" .none HealthRule.ofForm?
    metricRule := ← Form.part? ps "metricRule" .none MetricRule.ofForm?
    advancedOptions := ← Form.part? ps "advancedOptions" .none AdvancedOptions.ofForm?
    recipientId := ← Form.required? ps "recipientId" Form.text?
    state := ← Form.part? ps "state" .enabled (Form.word? AlertState.ofName?)
    startsAt := ← Form.part? ps "startsAt" Option.none (Form.optional? timestamp?)
    endsAt := ← Form.part? ps "endsAt" Option.none (Form.optional? timestamp?) }

end Alert

end AlertSync
