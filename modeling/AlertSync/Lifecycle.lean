import AlertSync.Duration
import AlertSync.Registry
import AlertSync.Validation

/-!
# What users do

The operations on alerts, recipients and notification settings. Each one checks its input before it
calls a backend or writes to the store, and notifies, after it has written, the topics whose files
depend on what it wrote.
-/

namespace AlertSync.Lifecycle

/-- A change of an alert concerns both the routing tree and the rules. -/
def alertsChanged : Operation Unit := do
  .notify .alertChanged
  .notify .metricsChanged

/-- Fails unless a recipient is stored under an id. -/
def requireRecipient (id : String) : Operation Unit := do
  let found ← ExceptT.lift (Registry.recipient id).outcome
  match found with
  | .ok _ => return ()
  | .error e =>
    if e.family == .notFound then throw (.invalid (.unknownRecipient id)) else throw e

def createAlert (a : Alert) : Operation Alert := do
  Operation.ofExcept a.validate
  requireRecipient a.recipientId
  let created ← Registry.createAlert a
  alertsChanged
  return created

/-- Replaces what users decide of an alert; its id, state and times stay. -/
def updateAlert (id : String) (a : Alert) : Operation Alert := do
  let current ← Registry.alert id
  Operation.ofExcept a.validate
  requireRecipient a.recipientId
  let updated :=
    { a with
      id := current.id
      state := current.state
      startsAt := current.startsAt
      endsAt := current.endsAt }
  Registry.updateAlert updated
  alertsChanged
  return updated

/-- What has to be done at the alerting backend for an action. -/
def prepare (a : Alert) : AlertAction → Operation Unit
  | .enable | .disable => return ()
  | .silence => .ofProgram (.ask (.addSilence a))
  | .unsilence => .ofProgram (.ask (.removeSilence a))

/-- Whom an action concerns: the routing tree and the rules leave out disabled alerts, and take no
notice of silences. -/
def announce : AlertAction → Operation Unit
  | .enable | .disable => alertsChanged
  | .silence | .unsilence => return ()

/-- Takes an alert from the state in which an action is allowed to the state in which it ends. -/
def act (action : AlertAction) (id : String) : Operation Alert := do
  let a ← Registry.alert id
  if a.state ≠ action.source then throw (.refused a.id a.state action)
  prepare a action
  let moved := { a with state := action.target }
  Registry.updateAlert moved
  announce action
  return moved

def deleteAlert (id : String) : Operation Alert := do
  let deleted ← Registry.deleteAlert id
  alertsChanged
  return deleted

def createRecipient (r : Recipient) : Operation Recipient := do
  Operation.ofExcept r.validate
  let created ← Registry.createRecipient r
  .notify .alertChanged
  return created

def updateRecipient (id : String) (r : Recipient) : Operation Recipient := do
  let _ ← Registry.recipient id
  Operation.ofExcept r.validate
  let updated := { r with id := id }
  Registry.updateRecipient updated
  .notify .alertChanged
  return updated

def deleteRecipient (id : String) : Operation Recipient := do
  let deleted ← Registry.deleteRecipient id
  .notify .alertChanged
  return deleted

/-- Saves the notification settings; a resolve timeout must be a duration. -/
def saveAlertConfig (c : AlertConfig) : Operation AlertConfig := do
  if c.resolveTimeout ≠ "" then
    let _ ← Operation.ofExcept (Duration.parse c.resolveTimeout)
  let saved ← Registry.saveAlertConfig c
  .notify .alertChanged
  return saved

end AlertSync.Lifecycle
