import AlertSync.LiveAlert

/-!
# Reconciling alerts with what fires

The state of an alert follows from the live alerts: it is active while one of them carries its id
and environment, suppressed while that one is held back by a silence, and enabled otherwise. The
times of the live alert are taken over. A silenced alert that no longer fires is to lose its
silence, so that it notifies again the next time.
-/

namespace AlertSync

/-- Whether a live alert is about an alert: its labels give the alert's id and environment. -/
def LiveAlert.isAbout (l : LiveAlert) (a : Alert) : Bool :=
  l.label? "alert_id" == some a.id && l.label? "environment" == some a.environment

/-- The state in which a live alert, if there is one, shows an alert to be. -/
def observedState : Option LiveAlert → AlertState
  | none => .enabled
  | some l => if l.isSuppressed then .suppressed else .active

/-- The first live alert about an alert. -/
def Alert.observed? (a : Alert) (live : List LiveAlert) : Option LiveAlert :=
  live.find? fun l => l.isAbout a

/-- What an observation means for an alert. -/
structure Reconciliation where
  /-- The alert as it was observed. -/
  alert : Alert
  /-- The state in which it was before. -/
  previous : AlertState
  /-- Whether anything is different now. -/
  changed : Bool
  /-- Whether its silence is left over. -/
  removeSilence : Bool
  deriving DecidableEq

/-- The observation of an alert among the live alerts. -/
def Alert.reconcile (a : Alert) (live : List LiveAlert) : Reconciliation :=
  let found := a.observed? live
  let updated := { a with
    state := observedState found
    startsAt := found.bind (·.startsAt)
    endsAt := found.bind (·.endsAt) }
  { alert := updated
    previous := a.state
    changed := decide (updated.state ≠ a.state) || decide (updated.startsAt ≠ a.startsAt) ||
      decide (updated.endsAt ≠ a.endsAt)
    removeSilence := a.state == .suppressed && updated.state == .enabled }

end AlertSync
