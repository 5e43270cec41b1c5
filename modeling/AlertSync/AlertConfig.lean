import AlertSync.Form
import AlertSync.Tree

/-!
# Notification settings

The settings that all notifications share: when an alert counts as resolved, and the mail server.
-/

namespace AlertSync

/-- The mail server and the account on it. -/
structure EmailConfig where
  smartHost : String
  username : String
  password : String
  deriving DecidableEq, Repr

namespace EmailConfig

def none : EmailConfig := ⟨"", "", ""⟩

def tree (c : EmailConfig) : Tree :=
  .record [("smtpSmartHost", .text c.smartHost), ("smtpAuthUsername", .text c.username),
    ("smtpAuthPassword", .text c.password)]

def ofForm? (f : Form) : Option EmailConfig := do
  let ps ← f.parts? ["smtpSmartHost", "smtpAuthUsername", "smtpAuthPassword"]
  return ⟨← Form.part? ps "smtpSmartHost" "" Form.text?,
    ← Form.part? ps "smtpAuthUsername" "" Form.text?,
    ← Form.part? ps "smtpAuthPassword" "" Form.text?⟩

end EmailConfig

/-- The settings that all notifications share. -/
structure AlertConfig where
  id : String
  resolveTimeout : String
  email : EmailConfig
  deriving DecidableEq, Repr

namespace AlertConfig

/-- The value that the settings are written as. -/
def tree (c : AlertConfig) : Tree :=
  .record [("id", .text c.id), ("resolveTimeout", .text c.resolveTimeout),
    ("emailConfig", c.email.tree)]

/-- Reads notification settings; nothing must be given. -/
def ofForm? (f : Form) : Option AlertConfig := do
  let ps ← f.parts? ["id", "resolveTimeout", "emailConfig"]
  return {
    id := ← Form.part? ps "id" "" Form.text?
    resolveTimeout := ← Form.part? ps "resolveTimeout" "" Form.text?
    email := ← Form.part? ps "emailConfig" .none EmailConfig.ofForm? }

end AlertConfig

end AlertSync
