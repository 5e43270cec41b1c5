import AlertSync.AlertState
import AlertSync.Kind
import AlertSync.Text.Quoted
import AlertSync.Url.Error

/-!
# Errors

Everything that an operation can report, one constructor for each cause. A cause belongs to a
`family`, which begins its message and by which callers tell errors apart; `message` is the whole
text. What the parsing, file and database layers have to say beyond the fact of the failure is not
part of an error here, except for the one database message that the health report shows.
-/

namespace AlertSync

/-- What is wrong with an object that a user hands in. -/
inductive Invalid
  | emptyDuration
  | notADuration (text : String)
  | durationOutOfRange (text : String)
  | noEnvironment
  | noDescription
  | noRecipientId
  | noExpression
  | noTarget
  | noAddress
  | noWebhookUrl
  | noWebhookName
  | unknownRecipient (id : String)
  | recipientInUse (id : String)
  deriving DecidableEq, Repr

/-- The wording of what is wrong. -/
def Invalid.message : Invalid → String
  | emptyDuration => "empty duration string"
  | notADuration s => "not a valid duration string: " ++ Text.quote s
  | durationOutOfRange s => "duration out of range: " ++ Text.quote s
  | noEnvironment => "missing environment"
  | noDescription => "missing description"
  | noRecipientId => "missing recipient id"
  | noExpression => "metric alert requires an expression"
  | noTarget => "missing target id"
  | noAddress => "email address can't be empty"
  | noWebhookUrl => "webhook url can't be empty"
  | noWebhookName => "webhook name can't be empty"
  | unknownRecipient id => "recipient " ++ id ++ " does not exist"
  | recipientInUse id => "recipient " ++ id ++ " is still used by an alert"

/-- What is wrong with the settings of the process or with a file that it keeps. -/
inductive Misconfigured
  | noPlatformUrl
  | zeroInterval
  | zeroTimeout
  | databaseWithoutPath
  | noDatabasePath
  | scrapeFileNotMapping
  deriving DecidableEq, Repr

/-- The wording of what is wrong. -/
def Misconfigured.message : Misconfigured → String
  | noPlatformUrl => "CATTLE_URL must be set for target discovery"
  | zeroInterval => "sync intervals must be greater than zero"
  | zeroTimeout => "request timeout must be greater than zero"
  | databaseWithoutPath => "SQLite path is required for SQLite database type"
  | noDatabasePath => "SQLite path not configured"
  | scrapeFileNotMapping => "prometheus configuration is not a mapping"

/-- At what point an exchange with a peer failed: before anything was sent, on the way, or at a
body that is not what was asked for. -/
inductive HttpFailure
  | builder
  | request
  | decode
  deriving DecidableEq, Repr

/-- The word for a point of failure. -/
def HttpFailure.name : HttpFailure → String
  | builder => "builder"
  | request => "request"
  | decode => "decode"

/-- The kinds of error that callers tell apart. -/
inductive ErrorFamily
  | store | backend | config | url | validation | invalidTransition | notFound | conflict
  | io | http | database | json | yaml
  deriving DecidableEq, Repr

/-- The words that begin the messages of a family. -/
def ErrorFamily.heading : ErrorFamily → String
  | store => "Store error"
  | backend => "Backend error"
  | config => "Configuration error"
  | url => "URL error"
  | validation => "Validation error"
  | invalidTransition => "Invalid transition"
  | notFound => "Not found"
  | conflict => "Conflict"
  | io => "IO error"
  | http => "HTTP error"
  | database => "SQLx error"
  | json => "JSON error"
  | yaml => "YAML error"

/-- Why an operation failed. -/
inductive Error
  /-- The store failed, for a reason of its own. -/
  | store (reason : String)
  /-- No kind of object has this name. -/
  | unknownKind (name : String)
  /-- A backend failed, for a reason of its own. -/
  | backend (reason : String)
  /-- A peer answered a request for `url` with a failing status. -/
  | rejected (url status body : String)
  /-- The alerting backend answered well-formed, but did not report success. -/
  | unsuccessful (status reason : String)
  | misconfigured (cause : Misconfigured)
  | url (cause : UrlError)
  | invalid (cause : Invalid)
  /-- An action was asked for in a state that does not allow it. -/
  | refused (id : String) (state : AlertState) (action : AlertAction)
  /-- An alert may be deleted only while it is disabled. -/
  | notDisabled
  /-- No object of the kind is stored under the id. -/
  | noObject (kind : Kind) (id : String)
  /-- There is no entry to update or delete. -/
  | noEntry (kind : Kind) (id : String)
  /-- There is an entry already where one is to be created. -/
  | exists (kind : Kind) (id : String)
  /-- The file system or the network refused. -/
  | io
  | http (failure : HttpFailure)
  /-- The database refused, with the message that it gives. -/
  | database (reason : String)
  /-- A JSON text does not hold what it should. -/
  | json
  /-- A YAML text does not hold what it should. -/
  | yaml
  deriving DecidableEq, Repr

namespace Error

/-- The family of a cause. -/
def family : Error → ErrorFamily
  | store _ | unknownKind _ => .store
  | backend _ | rejected .. | unsuccessful .. => .backend
  | misconfigured _ => .config
  | url _ => .url
  | invalid _ => .validation
  | refused .. | notDisabled => .invalidTransition
  | noObject .. | noEntry .. => .notFound
  | .exists .. => .conflict
  | io => .io
  | http _ => .http
  | database _ => .database
  | json => .json
  | yaml => .yaml

/-- What a message says after the heading of its family. -/
def detail : Error → String
  | store reason | backend reason | database reason => reason
  | unknownKind name => "unknown object kind '" ++ name ++ "'"
  | rejected address status body => address ++ " returned " ++ status ++ ": " ++ body
  | unsuccessful status reason =>
    "alertmanager responded with status " ++ status ++ ": " ++ reason
  | misconfigured cause => cause.message
  | url cause => cause.message
  | invalid cause => cause.message
  | refused id state action =>
    "alert " ++ id ++ " is " ++ state.name ++ ", can not perform " ++ action.name ++ " action"
  | notDisabled => "current state is not disabled, can not perform delete"
  | noObject kind id => "can not find the " ++ kind.name ++ " for id " ++ id
  | noEntry kind id => kind.name ++ " " ++ id
  | .exists kind id => kind.name ++ " " ++ id ++ " already exists"
  | io => "input or output failed"
  | http failure => failure.name
  | json => "unexpected JSON"
  | yaml => "unexpected YAML"

/-- The text of an error. -/
def message (e : Error) : String := e.family.heading ++ ": " ++ e.detail

end Error

end AlertSync
