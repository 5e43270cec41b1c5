import AlertSync.Alert

/-!
# Live alerts

What the alerting backend reports as firing: the labels that say which alert it is, when it began
and ends, and whether a silence holds it back. Everything may be missing or null.
-/

namespace AlertSync

/-- Whether a live alert is held back, and by what. -/
structure LiveStatus where
  state : String
  silencedBy : List String
  inhibitedBy : List String
  deriving DecidableEq, Repr

namespace LiveStatus

def none : LiveStatus := ⟨"", [], []⟩

def tree (s : LiveStatus) : Tree :=
  .record [("state", .text s.state), ("silencedBy", .texts s.silencedBy),
    ("inhibitedBy", .texts s.inhibitedBy)]

def ofForm? (f : Form) : Option LiveStatus := do
  let ps ← f.parts? ["state", "silencedBy", "inhibitedBy"]
  return {
    state := ← Form.part? ps "state" "" (Form.orElse? "" Form.text?)
    silencedBy := ← Form.part? ps "silencedBy" [] (Form.orElse? [] (Form.list? Form.text?))
    inhibitedBy := ← Form.part? ps "inhibitedBy" [] (Form.orElse? [] (Form.list? Form.text?)) }

end LiveStatus

/-- An alert that the alerting backend reports as firing. -/
structure LiveAlert where
  labels : SortedMap String
  annotations : SortedMap String
  startsAt : Option Timestamp
  endsAt : Option Timestamp
  status : LiveStatus
  deriving DecidableEq

namespace LiveAlert

def label? (l : LiveAlert) (name : String) : Option String := l.labels.find? name

/-- Whether a silence holds the alert back. -/
def isSuppressed (l : LiveAlert) : Bool := l.status.state == "suppressed"

/-- The value that a live alert is written as. -/
def tree (l : LiveAlert) : Tree :=
  .record [("labels", .textRecord l.labels), ("annotations", .textRecord l.annotations),
    ("startsAt", (l.startsAt.map fun t => .text t.text).getD .absent),
    ("endsAt", (l.endsAt.map fun t => .text t.text).getD .absent), ("status", l.status.tree)]

/-- Reads a live alert. -/
def ofForm? (f : Form) : Option LiveAlert := do
  let ps ← f.parts? ["labels", "annotations", "startsAt", "endsAt", "status"]
  return {
    labels := ← Form.part? ps "labels" .empty (Form.orElse? .empty Form.textMap?)
    annotations := ← Form.part? ps "annotations" .empty (Form.orElse? .empty Form.textMap?)
    startsAt := ← Form.part? ps "startsAt" Option.none (Form.optional? Alert.timestamp?)
    endsAt := ← Form.part? ps "endsAt" Option.none (Form.optional? Alert.timestamp?)
    status := ← Form.part? ps "status" .none (Form.orElse? .none LiveStatus.ofForm?) }

end LiveAlert

end AlertSync
