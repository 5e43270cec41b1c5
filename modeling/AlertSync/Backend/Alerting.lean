import AlertSync.Alert
import AlertSync.Http
import AlertSync.LiveAlert
import AlertSync.Text.Quoted

/-!
# The alerting backend

It groups what fires, sends notifications, and holds silences. Each of its answers is wrapped in an
envelope that tells whether the request succeeded. A silence mutes all that carries the id and the
environment of an alert.
-/

namespace AlertSync.AlertingBackend

open Http

/-- An answer in its envelope. -/
structure Envelope (α : Type) where
  status : String
  data : Option α
  reason : Option String

/-- Reads an envelope; only its status must be given. -/
def Envelope.ofForm? {α : Type} (read : Form → Option α) (f : Form) : Option (Envelope α) := do
  let ps ← f.parts? ["status", "data", "error"]
  return {
    status := ← Form.required? ps "status" Form.text?
    data := ← Form.part? ps "data" none (Form.optional? read)
    reason := ← Form.part? ps "error" none (Form.optional? Form.text?) }

/-- The answer in a response, if its envelope tells of success. -/
def opened {α : Type} (read : Form → Option α) (default : α) (r : Response) : Conversation α := do
  let e ← Conversation.value (Envelope.ofForm? read) r
  if e.status == "success" then return e.data.getD default
  else throw (.unsuccessful e.status (e.reason.getD ""))

/-- A label and the value that it must have. -/
structure Matcher where
  name : String
  value : String
  deriving DecidableEq, Repr

/-- The value that a matcher is sent as. -/
def Matcher.tree (m : Matcher) : Tree :=
  .record [("name", .text m.name), ("value", .text m.value), ("isRegex", .flag false)]

/-- What selects all that is generated for an alert. -/
def matchers (a : Alert) : List Matcher := [⟨"alert_id", a.id⟩, ⟨"environment", a.environment⟩]

/-- The same selection in the notation of a filter. -/
def silenceFilter (a : Alert) : String :=
  let selected := (matchers a).map fun m => m.name ++ "=" ++ Text.quote m.value
  "\x7b" ++ String.intercalate "," selected ++ "\x7d"

/-- For how many days a silence lasts, if it is not removed before. -/
def silenceDays : Nat := 365 * 100

/-- The silence that is created for an alert. -/
def newSilence (a : Alert) (startsAt endsAt : Timestamp) : Tree :=
  .record [("matchers", .list ((matchers a).map Matcher.tree)),
    ("startsAt", .text startsAt.text), ("endsAt", .text endsAt.text),
    ("createdBy", .text "monitoring-manager"), ("comment", .text ("silenced alert " ++ a.id))]

/-- A silence that the backend holds. -/
structure Silence where
  id : String
  state : String
  deriving DecidableEq, Repr

namespace Silence

/-- Reads a silence; its id must be given. -/
def ofForm? (f : Form) : Option Silence := do
  let ps ← f.parts? ["id", "status"]
  let state (g : Form) : Option String := do
    Form.part? (← g.parts? ["state"]) "state" "" Form.text?
  return ⟨← Form.required? ps "id" Form.text?, ← Form.part? ps "status" "" state⟩

def isActive (s : Silence) : Bool := s.state == "active"

end Silence

/-- All that fires. -/
def liveAlerts (base : String) : Conversation (List LiveAlert) := do
  let url ← Conversation.urlOf (baseOf base ++ "/api/v1/alerts")
  opened (Form.list? LiveAlert.ofForm?) [] (← Conversation.succeed (.bare .get url))

/-- Where silences are listed and created. -/
def silencesUrl (base : String) : Conversation Url :=
  Conversation.urlOf (baseOf base ++ "/api/v1/silences")

/-- Creates a silence for an alert. -/
def addSilence (base : String) (a : Alert) (startsAt endsAt : Timestamp) : Conversation Unit := do
  let request := { Request.bare .post (← silencesUrl base) with
    body := some (newSilence a startsAt endsAt) }
  opened (fun _ => some ()) () (← Conversation.succeed request)

/-- The silences that the backend holds for an alert, whatever their state. -/
def silencesOf (base : String) (a : Alert) : Conversation (List Silence) := do
  let url := (← silencesUrl base).withField "filter" (silenceFilter a)
  opened (Form.list? Silence.ofForm?) [] (← Conversation.succeed (.bare .get url))

/-- Removes one silence. -/
def expire (base : String) (s : Silence) : Conversation Unit := do
  let url ← Conversation.urlOf (baseOf base ++ "/api/v1/silence/" ++ s.id)
  let _ ← Conversation.succeed (.bare .delete url)

/-- Removes the active ones of some silences, up to the first that cannot be removed. -/
def expireAll (base : String) : List Silence → Conversation Unit
  | [] => return ()
  | s :: rest => do
    if s.isActive then expire base s
    expireAll base rest

/-- Removes the active silences for an alert. -/
def removeSilence (base : String) (a : Alert) : Conversation Unit := do
  expireAll base (← silencesOf base a)

/-- Has the alerting backend read its file again. -/
def reload (base : String) : Conversation Unit := do
  let url ← Conversation.urlOf (baseOf base ++ "/-/reload")
  let _ ← Conversation.succeed (.bare .post url)

end AlertSync.AlertingBackend
