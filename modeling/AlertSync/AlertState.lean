/-!
# The lifecycle state of an alert

An alert is enabled or disabled by its users, and, while it is enabled and firing, active or
suppressed by a silence.
-/

namespace AlertSync

/-- Where an alert stands in its lifecycle. -/
inductive AlertState
  | enabled
  | disabled
  | active
  | suppressed
  deriving DecidableEq, Repr

namespace AlertState

/-- The word for a state in payloads, messages and counters. -/
def name : AlertState → String
  | enabled => "enabled"
  | disabled => "disabled"
  | active => "active"
  | suppressed => "suppressed"

/-- Every state. -/
def all : List AlertState := [enabled, disabled, active, suppressed]

/-- The state with a given name. -/
def ofName? (s : String) : Option AlertState := all.find? (fun a => a.name == s)

theorem ofName?_name (a : AlertState) : ofName? a.name = some a := by cases a <;> decide

end AlertState

/-- What a user may ask of an alert that depends on its state. -/
inductive AlertAction
  | enable
  | disable
  | silence
  | unsilence
  deriving DecidableEq, Repr

namespace AlertAction

/-- The word for an action in messages. -/
def name : AlertAction → String
  | enable => "enable"
  | disable => "disable"
  | silence => "silence"
  | unsilence => "unsilence"

/-- The state in which an action is allowed. -/
def source : AlertAction → AlertState
  | enable => .disabled
  | disable => .enabled
  | silence => .active
  | unsilence => .suppressed

/-- The state in which an action leaves the alert. -/
def target : AlertAction → AlertState
  | enable => .enabled
  | disable => .disabled
  | silence => .suppressed
  | unsilence => .active

end AlertAction

end AlertSync
