import AlertSync.Program
import AlertSync.Resource

/-!
# The registry of domain objects

Typed access to the store, which itself knows objects only as payloads. The registry reads and
writes them as alerts, recipients and notification settings, gives new ones their ids, and keeps
the rules between them: an alert is deleted only while it is disabled, and a recipient only while
no alert names it. Of the notification settings there is one object, under a fixed id.
-/

namespace AlertSync.Registry

/-- The stored objects of a kind. -/
def objects (kind : Kind) : Operation (List StoredObject) := .ofProgram (.ask (.list kind))

/-- The payload that is stored under an id. -/
def payload (kind : Kind) (id : String) : Operation String := do
  match ← Operation.ofProgram (.ask (.get kind id)) with
  | some object => return object.payload
  | none => throw (.noObject kind id)

/-- Whether an object belongs to an environment, if one is asked for. -/
def isWithin (environment : Option String) (e : String) : Bool :=
  match environment with
  | some asked => e == asked
  | none => true

/-- The alerts, of one environment or of all, ordered by id. -/
def alerts (environment : Option String) : Operation (List Alert) := do
  let all ← .ofExcept ((← objects .alert).mapM fun o => Alert.ofPayload o.payload)
  return all.filter fun a => isWithin environment a.environment

/-- The alert under an id. -/
def alert (id : String) : Operation Alert := do
  .ofExcept (Alert.ofPayload (← payload .alert id))

/-- Stores an alert as a new one: under an id of its own, enabled, and without times. -/
def createAlert (a : Alert) : Operation Alert := do
  let created := { a with id := ← .freshId, state := .enabled, startsAt := none, endsAt := none }
  Operation.ofProgram (.ask (.create .alert created.id created.payload))
  return created

/-- Stores an alert under its id, in place of what is there. -/
def updateAlert (a : Alert) : Operation Unit := .ofProgram (.ask (.update .alert a.id a.payload))

/-- Deletes an alert, which must be disabled. -/
def deleteAlert (id : String) : Operation Alert := do
  let a ← alert id
  if a.state ≠ .disabled then throw .notDisabled
  Operation.ofProgram (.ask (.delete .alert id))
  return a

/-- The recipients, of one environment or of all, ordered by id. -/
def recipients (environment : Option String) : Operation (List Recipient) := do
  let all ← .ofExcept ((← objects .recipient).mapM fun o => Recipient.ofPayload o.payload)
  return all.filter fun r => isWithin environment r.environment

/-- The recipient under an id. -/
def recipient (id : String) : Operation Recipient := do
  .ofExcept (Recipient.ofPayload (← payload .recipient id))

/-- Stores a recipient as a new one, under an id of its own. -/
def createRecipient (r : Recipient) : Operation Recipient := do
  let created := { r with id := ← .freshId }
  Operation.ofProgram (.ask (.create .recipient created.id created.payload))
  return created

/-- Stores a recipient under its id, in place of what is there. -/
def updateRecipient (r : Recipient) : Operation Unit :=
  .ofProgram (.ask (.update .recipient r.id r.payload))

/-- Deletes a recipient that no alert names. -/
def deleteRecipient (id : String) : Operation Recipient := do
  let r ← recipient id
  if (← alerts none).any fun a => a.recipientId == id then throw (.invalid (.recipientInUse id))
  Operation.ofProgram (.ask (.delete .recipient id))
  return r

/-- The id under which the notification settings are stored. -/
def settingsId : String := "alertConfig"

/-- The notification settings, once there are some. -/
def alertConfig : Operation (Option AlertConfig) := do
  match ← Operation.ofProgram (.ask (.get .alertConfig settingsId)) with
  | some object => .ofExcept ((AlertConfig.ofPayload object.payload).map some)
  | none => return none

/-- The id of notification settings: their own, or that of those that were there, or a new one. -/
def settingsOwnId (c : AlertConfig) : Option AlertConfig → Operation String
  | some former => return if c.id == "" then former.id else c.id
  | none => if c.id == "" then .freshId else return c.id

/-- Stores the notification settings, in place of those that were there. -/
def saveAlertConfig (c : AlertConfig) : Operation AlertConfig := do
  let former ← alertConfig
  let saved := { c with id := ← settingsOwnId c former }
  Operation.ofProgram <| match former with
    | some _ => .ask (.update .alertConfig settingsId saved.payload)
    | none => .ask (.create .alertConfig settingsId saved.payload)
  return saved

end AlertSync.Registry
