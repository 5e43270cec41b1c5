import AlertSync.Alert
import AlertSync.LiveAlert
import AlertSync.Recipient

/-!
# Objects to speak of

An alert on a host, a recipient with a webhook and a live alert that give no more than they must:
the objects at which general statements are instantiated.
-/

namespace AlertSync

/-- An alert on the host `h1` that gives no more than it must. -/
def Alert.sample (id environment recipientId : String) (state : AlertState) : Alert where
  id := id
  environment := environment
  description := "down"
  severity := .critical
  targetType := .host
  targetId := "h1"
  hostRule := .none
  serviceRule := .none
  stackRule := .none
  metricRule := .none
  advancedOptions := ⟨"30s", "soon"⟩
  recipientId := recipientId
  state := state
  startsAt := none
  endsAt := none

/-- A recipient with a webhook. -/
def Recipient.sample (id : String) : Recipient := ⟨id, "e1", .webhook, .none, ⟨"hook", "http://h"⟩⟩

/-- A live alert with some labels that gives nothing else. -/
def LiveAlert.sample (labels : SortedMap String) (state : String) : LiveAlert where
  labels := labels
  annotations := .empty
  startsAt := none
  endsAt := none
  status := ⟨state, [], []⟩

end AlertSync
