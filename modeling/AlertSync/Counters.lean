import AlertSync.AlertState
import AlertSync.Bus
import AlertSync.Numeral.Decimal

/-!
# Counters

What the process counts about itself: ends of cycles, state changes, silences removed and
notifications coalesced. `Counters` keeps every event that was counted, so that the value of a
counter is how often it occurs; `Counters.text` is the exposition format in which the metrics
backend collects them.
-/

namespace AlertSync

/-- How a cycle of a loop ended. -/
inductive CycleEnd
  | success
  | failure
  | reloadFailure
  deriving DecidableEq, Repr

/-- The word for how a cycle ended. -/
def CycleEnd.name : CycleEnd → String
  | success => "success"
  | failure => "failure"
  | reloadFailure => "reload_failure"

/-- Something that is counted. -/
inductive Counter
  /-- A state change that the reconciler applied. -/
  | transition (source target : AlertState)
  /-- A notification dropped because one was pending. -/
  | coalesced (topic : Topic)
  /-- A silence removed because its alert no longer fires. -/
  | silenceRemoved
  /-- A cycle of a synchronizer. -/
  | cycle (synchronizer : String) (result : CycleEnd)
  deriving DecidableEq, Repr

/-- Counters that are published together. -/
inductive CounterFamily
  | transitions
  | coalesced
  | silencesRemoved
  | cycles
  deriving DecidableEq, Repr

namespace CounterFamily

/-- The families in the order of their names. -/
def all : List CounterFamily := [transitions, coalesced, silencesRemoved, cycles]

/-- The name under which a family is published. -/
def name : CounterFamily → String
  | transitions => "monitoring_manager_alert_state_transitions_total"
  | coalesced => "monitoring_manager_signals_coalesced_total"
  | silencesRemoved => "monitoring_manager_silences_removed_total"
  | cycles => "monitoring_manager_sync_runs_total"

/-- What a family counts. -/
def help : CounterFamily → String
  | transitions => "Alert state changes applied by the state reconciler."
  | coalesced => "Change notifications dropped because one was already pending."
  | silencesRemoved => "Silences removed automatically after the silenced alert resolved."
  | cycles => "Reconciliation cycles by synchronizer and outcome."

/-- The counters of a family that are published even at zero. -/
def standing : CounterFamily → List Counter
  | silencesRemoved => [.silenceRemoved]
  | _ => []

end CounterFamily

namespace Counter

def family : Counter → CounterFamily
  | transition .. => .transitions
  | coalesced _ => .coalesced
  | silenceRemoved => .silencesRemoved
  | cycle .. => .cycles

/-- The labels that tell a counter from the others of its family, in the order of their names. -/
def labels : Counter → List (String × String)
  | transition source target => [("from", source.name), ("to", target.name)]
  | coalesced topic => [("topic", topic.name)]
  | silenceRemoved => []
  | cycle synchronizer result => [("outcome", result.name), ("synchronizer", synchronizer)]

/-- The values of the labels. -/
def labelValues (c : Counter) : List String := c.labels.map (·.2)

/-- The name of a counter with its labels. -/
def selector (c : Counter) : String :=
  if c.labels.isEmpty then c.family.name
  else
    c.family.name ++ "\x7b" ++
      String.intercalate "," (c.labels.map fun l => l.1 ++ "=\"" ++ l.2 ++ "\"") ++ "\x7d"

end Counter

/-- Everything that was counted, the latest first. -/
structure Counters where
  events : List Counter
  deriving DecidableEq, Repr

namespace Counters

/-- Nothing counted. -/
def zero : Counters := ⟨[]⟩

/-- One event more. -/
def count (cs : Counters) (c : Counter) : Counters := ⟨c :: cs.events⟩

/-- How often something was counted. -/
def value (cs : Counters) (c : Counter) : Nat := cs.events.count c

theorem value_count (cs : Counters) (c d : Counter) :
    (cs.count c).value d = cs.value d + if c = d then 1 else 0 := by
  simp [count, value, List.count_cons]

/-- What is counted of a notification: that it coalesced, if it did. -/
def countDelivery (cs : Counters) (topic : Topic) : Delivery → Counters
  | .coalesced => cs.count (.coalesced topic)
  | .queued | .closed => cs

/-- The counters of a family that are published, in the order of their label values. -/
def published (cs : Counters) (f : CounterFamily) : List Counter :=
  let counted := (cs.events.filter fun c => c.family == f).eraseDups
  let all := counted ++ f.standing.filter fun c => !counted.contains c
  all.mergeSort fun a b => !b.labelValues.lex a.labelValues fun x y => decide (x < y)

/-- The text of one family; a family without counters is left out. -/
def familyText (cs : Counters) (f : CounterFamily) : String :=
  let counters := cs.published f
  if counters.isEmpty then ""
  else
    "# HELP " ++ f.name ++ " " ++ f.help ++ "\n# TYPE " ++ f.name ++ " counter\n" ++
      String.join (counters.map fun c =>
        c.selector ++ " " ++ String.ofList (Numeral.decimal (cs.value c)) ++ "\n")

/-- The text in which all counters are collected. -/
def text (cs : Counters) : String := String.join (CounterFamily.all.map cs.familyText)

end Counters

end AlertSync
