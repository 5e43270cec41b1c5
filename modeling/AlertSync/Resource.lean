import AlertSync.Alert
import AlertSync.AlertConfig
import AlertSync.Error
import AlertSync.Json.Printer
import AlertSync.Json.Reader
import AlertSync.Recipient

/-!
# Resources

A domain object as the store keeps it: the store knows its kind and id, and its contents only as a
payload, which is JSON without blanks.
-/

namespace AlertSync

/-- A domain object of any kind. -/
inductive Resource
  | alert (a : Alert)
  | recipient (r : Recipient)
  | alertConfig (c : AlertConfig)
  deriving DecidableEq

namespace Resource

def kind : Resource → Kind
  | alert _ => .alert
  | recipient _ => .recipient
  | alertConfig _ => .alertConfig

def tree : Resource → Tree
  | alert a => a.tree
  | recipient r => r.tree
  | alertConfig c => c.tree

/-- The payload under which an object is stored. -/
def encode (r : Resource) : String := Json.text r.tree

/-- The object of a kind that a form holds. -/
def ofForm? : Kind → Form → Option Resource
  | .alert, f => (Alert.ofForm? f).map alert
  | .recipient, f => (Recipient.ofForm? f).map recipient
  | .alertConfig, f => (AlertConfig.ofForm? f).map alertConfig

/-- The object of a kind that a payload holds. -/
def decode (kind : Kind) (payload : String) : Except Error Resource :=
  match (Json.form? payload).bind (ofForm? kind) with
  | some r => .ok r
  | none => .error .json

theorem kind_of_ofForm? {k : Kind} {f : Form} {r : Resource} (h : ofForm? k f = some r) :
    r.kind = k := by
  cases k <;> simp only [ofForm?, Option.map_eq_some_iff] at h <;> obtain ⟨_, _, rfl⟩ := h <;> rfl

end Resource

/-- The payload of an alert. -/
def Alert.payload (a : Alert) : String := (Resource.alert a).encode

/-- The payload of a recipient. -/
def Recipient.payload (r : Recipient) : String := (Resource.recipient r).encode

/-- The payload of notification settings. -/
def AlertConfig.payload (c : AlertConfig) : String := (Resource.alertConfig c).encode

/-- Reads the object that a payload of its kind holds. -/
def Alert.ofPayload (payload : String) : Except Error Alert :=
  match (Json.form? payload).bind Alert.ofForm? with
  | some a => .ok a
  | none => .error .json

@[inherit_doc Alert.ofPayload]
def Recipient.ofPayload (payload : String) : Except Error Recipient :=
  match (Json.form? payload).bind Recipient.ofForm? with
  | some r => .ok r
  | none => .error .json

@[inherit_doc Alert.ofPayload]
def AlertConfig.ofPayload (payload : String) : Except Error AlertConfig :=
  match (Json.form? payload).bind AlertConfig.ofForm? with
  | some c => .ok c
  | none => .error .json

end AlertSync
