import AlertSync.Alert
import AlertSync.Error
import AlertSync.Recipient
import AlertSync.Text.Blank

/-!
# Validation

What an alert and a recipient must give before they are stored. The first thing that is missing is
the one that is reported.
-/

namespace AlertSync

/-- The first cause whose test holds is what is wrong. -/
def firstInvalid (checks : List (Bool × Invalid)) : Except Error Unit :=
  match checks.find? (·.1) with
  | some (_, cause) => .error (.invalid cause)
  | none => .ok ()

/-- An alert names its environment, description and recipient, and what it watches. -/
def Alert.validate (a : Alert) : Except Error Unit :=
  firstInvalid [
    (a.environment == "", .noEnvironment),
    (a.description == "", .noDescription),
    (a.recipientId == "", .noRecipientId),
    (a.targetType == .metric && Text.trim a.metricRule.expr == "", .noExpression),
    (a.targetType != .metric && a.targetId == "", .noTarget)]

/-- A recipient names its environment and how it is reached. -/
def Recipient.validate (r : Recipient) : Except Error Unit :=
  firstInvalid [
    (r.environment == "", .noEnvironment),
    (r.recipientType == .email && r.email.address == "", .noAddress),
    (r.recipientType == .webhook && r.webhook.url == "", .noWebhookUrl),
    (r.recipientType == .webhook && r.webhook.name == "", .noWebhookName)]

end AlertSync
