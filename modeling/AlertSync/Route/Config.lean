import AlertSync.AlertConfig
import AlertSync.Recipient
import AlertSync.Route

/-!
# The configuration of the alerting backend

Global settings, the routing tree and the receivers that it routes to. `RoutingConfig.build` makes
all of it from the stored objects: one branch for each environment that has an alert which is not
disabled, in it one leaf for each such alert, and one receiver for each recipient.
-/

namespace AlertSync

/-- Settings for all notifications. -/
structure GlobalConfig where
  resolveTimeout : Duration
  smtpFrom : Option String
  smtpSmarthost : Option String
  smtpAuthUsername : Option String
  smtpAuthPassword : Option String
  smtpRequireTls : Bool
  deriving DecidableEq

namespace GlobalConfig

def tree (g : GlobalConfig) : Tree :=
  .record <| [("resolve_timeout", g.resolveTimeout.tree)] ++
    Tree.part? "smtp_from" (g.smtpFrom.map .text) ++
    Tree.part? "smtp_smarthost" (g.smtpSmarthost.map .text) ++
    Tree.part? "smtp_auth_username" (g.smtpAuthUsername.map .text) ++
    Tree.part? "smtp_auth_password" (g.smtpAuthPassword.map .text) ++
    [("smtp_require_tls", .flag g.smtpRequireTls)]

def shape : Shape :=
  .record [("resolve_timeout", .scalar), ("smtp_from", .scalar), ("smtp_smarthost", .scalar),
    ("smtp_auth_username", .scalar), ("smtp_auth_password", .scalar),
    ("smtp_require_tls", .scalar)]

/-- Reads global settings; the time-out must be given. -/
def ofForm? (f : Form) : Option GlobalConfig := do
  let ps ← f.parts? shape.names
  return {
    resolveTimeout := ← Form.required? ps "resolve_timeout" Duration.ofForm?
    smtpFrom := ← Form.part? ps "smtp_from" none (Form.optional? Form.text?)
    smtpSmarthost := ← Form.part? ps "smtp_smarthost" none (Form.optional? Form.text?)
    smtpAuthUsername := ← Form.part? ps "smtp_auth_username" none (Form.optional? Form.text?)
    smtpAuthPassword := ← Form.part? ps "smtp_auth_password" none (Form.optional? Form.text?)
    smtpRequireTls := ← Form.part? ps "smtp_require_tls" false Form.flag? }

end GlobalConfig

/-- An address that gets mail, and the header lines of the mail. -/
structure EmailReceiver where
  address : String
  headers : SortedMap String
  deriving DecidableEq

namespace EmailReceiver

def tree (r : EmailReceiver) : Tree :=
  .record [("to", .text r.address), ("headers", .textRecord r.headers)]

def shape : Shape := .record [("to", .scalar), ("headers", .map)]

def ofForm? (f : Form) : Option EmailReceiver := do
  let ps ← f.parts? shape.names
  return ⟨← Form.required? ps "to" Form.text?, ← Form.part? ps "headers" .empty Form.textMap?⟩

end EmailReceiver

/-- A webhook that gets called. -/
structure WebhookReceiver where
  url : String
  deriving DecidableEq

namespace WebhookReceiver

def tree (r : WebhookReceiver) : Tree := .record [("url", .text r.url)]

def shape : Shape := .record [("url", .scalar)]

def ofForm? (f : Form) : Option WebhookReceiver := do
  let ps ← f.parts? shape.names
  return ⟨← Form.required? ps "url" Form.text?⟩

end WebhookReceiver

/-- A name to which routes lead, and everything that is notified under it. -/
structure Receiver where
  name : String
  emails : List EmailReceiver
  webhooks : List WebhookReceiver
  deriving DecidableEq

namespace Receiver

def tree (r : Receiver) : Tree :=
  .record <| [("name", .text r.name)] ++
    Tree.listPart? "email_configs" (r.emails.map EmailReceiver.tree) ++
    Tree.listPart? "webhook_configs" (r.webhooks.map WebhookReceiver.tree)

def shape : Shape :=
  .record [("name", .scalar), ("email_configs", .list EmailReceiver.shape),
    ("webhook_configs", .list WebhookReceiver.shape)]

def ofForm? (f : Form) : Option Receiver := do
  let ps ← f.parts? shape.names
  return ⟨← Form.required? ps "name" Form.text?,
    ← Form.part? ps "email_configs" [] (Form.list? EmailReceiver.ofForm?),
    ← Form.part? ps "webhook_configs" [] (Form.list? WebhookReceiver.ofForm?)⟩

/-- The name of the receiver for whatever no other route takes. -/
def defaultName : String := "default-receiver"

/-- The subject line of mail. -/
def emailSubject : String :=
  "Alert from Rancher: \x7b\x7b (index .Alerts 0).Labels.description \x7d\x7d"

/-- The receiver of a recipient: it has the recipient's id as its name, and one entry of the kind
that the recipient is of. -/
def ofRecipient (r : Recipient) : Receiver :=
  match r.recipientType with
  | .email => ⟨r.id, [⟨r.email.address, .ofList [("Subject", emailSubject)]⟩], []⟩
  | .webhook => ⟨r.id, [], [⟨r.webhook.url⟩]⟩

end Receiver

/-- The configuration of the alerting backend. -/
structure RoutingConfig where
  global : GlobalConfig
  route : Route
  receivers : List Receiver

namespace RoutingConfig

def tree (c : RoutingConfig) : Tree :=
  .record [("global", c.global.tree), ("route", c.route.tree),
    ("receivers", .list (c.receivers.map Receiver.tree))]

def shape : Shape :=
  .record [("global", GlobalConfig.shape), ("route", Route.shape),
    ("receivers", .list Receiver.shape)]

/-- Reads a configuration; its global settings and routing tree must be given. -/
def ofForm? (f : Form) : Option RoutingConfig := do
  let ps ← f.parts? shape.names
  return {
    global := ← Form.required? ps "global" GlobalConfig.ofForm?
    route := ← Form.required? ps "route" Route.ofForm?
    receivers := ← Form.part? ps "receivers" [] (Form.list? Receiver.ofForm?) }

/-- The global settings that the notification settings ask for. Mail is set up only where there is
a password. -/
def globalOf (settings : Option AlertConfig) : GlobalConfig :=
  let timeout := settings.bind fun c => Duration.parse? c.resolveTimeout
  let email := (settings.map (·.email)).filter fun e => e.password != ""
  { resolveTimeout := timeout.getD (.ofSeconds (5 * 60))
    smtpFrom := email.map (·.username)
    smtpSmarthost := email.map (·.smartHost)
    smtpAuthUsername := email.map (·.username)
    smtpAuthPassword := email.map (·.password)
    smtpRequireTls := false }

/-- The leaf of an alert: it takes what is labelled with the alert's id to the alert's recipient.
Options that are no durations are left to the parent. -/
def leaf (a : Alert) : Route :=
  .mk (some a.recipientId) (.ofList [("alert_id", a.id)])
    (Duration.parse? a.advancedOptions.initialWait) none
    (Duration.parse? a.advancedOptions.repeatInterval) []

/-- The branch of an environment: it takes what is labelled with the environment to its leaves. -/
def branch (environment : String) (leaves : List Route) : Route :=
  .mk none (.ofList [("environment", environment)]) none none none leaves

/-- The leaves of the alerts of each environment, in the order of the alerts. -/
def leavesByEnvironment (alerts : List Alert) : SortedMap (List Route) :=
  alerts.foldl (fun m a => m.insert a.environment ((m.find? a.environment).getD [] ++ [leaf a]))
    .empty

/-- The root of the routing tree over its branches. -/
def root (branches : List Route) : Route :=
  .mk (some Receiver.defaultName) .empty (some (.ofSeconds 60)) (some (.ofSeconds (5 * 60)))
    (some (.ofSeconds (60 * 60))) branches

/-- The configuration for the stored objects. -/
def build (settings : Option AlertConfig) (alerts : List Alert) (recipients : List Recipient) :
    RoutingConfig where
  global := globalOf settings
  route := root <| (leavesByEnvironment (alerts.filter fun a => !a.isDisabled)).entries.map
    fun (environment, leaves) => branch environment leaves
  receivers := ⟨Receiver.defaultName, [], []⟩ :: recipients.map Receiver.ofRecipient

end RoutingConfig

end AlertSync
