import AlertSync.Form
import AlertSync.Tree

/-!
# Recipients

Who hears of an alert: somebody with an email address, or a webhook.
-/

namespace AlertSync

/-- How a recipient is reached. -/
inductive RecipientType
  | email
  | webhook
  deriving DecidableEq, Repr

namespace RecipientType

def name : RecipientType → String
  | email => "email"
  | webhook => "webhook"

def all : List RecipientType := [email, webhook]

/-- The recipient type with a given name. -/
def ofName? (s : String) : Option RecipientType := all.find? (fun a => a.name == s)

theorem ofName?_name (a : RecipientType) : ofName? a.name = some a := by cases a <;> decide

end RecipientType

/-- Where mail goes. -/
structure EmailRecipient where
  address : String
  deriving DecidableEq, Repr

namespace EmailRecipient

def none : EmailRecipient := ⟨""⟩

def tree (r : EmailRecipient) : Tree := .record [("address", .text r.address)]

def ofForm? (f : Form) : Option EmailRecipient := do
  let ps ← f.parts? ["address"]
  return ⟨← Form.part? ps "address" "" Form.text?⟩

end EmailRecipient

/-- Which webhook is called. -/
structure WebhookRecipient where
  name : String
  url : String
  deriving DecidableEq, Repr

namespace WebhookRecipient

def none : WebhookRecipient := ⟨"", ""⟩

def tree (r : WebhookRecipient) : Tree := .record [("name", .text r.name), ("url", .text r.url)]

def ofForm? (f : Form) : Option WebhookRecipient := do
  let ps ← f.parts? ["name", "url"]
  return ⟨← Form.part? ps "name" "" Form.text?, ← Form.part? ps "url" "" Form.text?⟩

end WebhookRecipient

/-- Who hears of an alert. -/
structure Recipient where
  id : String
  environment : String
  recipientType : RecipientType
  email : EmailRecipient
  webhook : WebhookRecipient
  deriving DecidableEq, Repr

namespace Recipient

/-- The value that a recipient is written as. -/
def tree (r : Recipient) : Tree :=
  .record [("id", .text r.id), ("environment", .text r.environment),
    ("recipientType", .text r.recipientType.name), ("emailRecipient", r.email.tree),
    ("webhookRecipient", r.webhook.tree)]

/-- The names of the parts of a recipient, in their order. -/
def partNames : List String :=
  ["id", "environment", "recipientType", "emailRecipient", "webhookRecipient"]

/-- Reads a recipient. Environment and type must be given. -/
def ofForm? (f : Form) : Option Recipient := do
  let ps ← f.parts? partNames
  return {
    id := ← Form.part? ps "id" "" Form.text?
    environment := ← Form.required? ps "environment" Form.text?
    recipientType := ← Form.required? ps "recipientType" (Form.word? RecipientType.ofName?)
    email := ← Form.part? ps "emailRecipient" .none EmailRecipient.ofForm?
    webhook := ← Form.part? ps "webhookRecipient" .none WebhookRecipient.ofForm? }

end Recipient

end AlertSync
