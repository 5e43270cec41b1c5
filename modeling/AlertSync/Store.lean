import AlertSync.Store.Config
import AlertSync.Store.Table

/-!
# The store

A store is in memory or in a database; every call is answered by whichever it is.
-/

namespace AlertSync

/-- A store of objects. -/
inductive Store
  | memory (objects : Objects)
  | database (database : Database)
  deriving DecidableEq

namespace Store

/-- The path of a database that is kept in memory. -/
def transientPath : String := ":memory:"

/-- Opens the chosen store. A database file is made anew where none is known, but not the
directory that is to hold it. -/
def connect (c : StoreConfig) (directoryExists : Bool) : Except Error Store :=
  match c.type, c.path with
  | .memory, _ => .ok (.memory .empty)
  | .sqlite, none => .error (.misconfigured .noDatabasePath)
  | .sqlite, some path =>
    if path == transientPath then .ok (.database (.blank false))
    else if directoryExists then .ok (.database (.blank true))
    else .error (.database
      "error returned from database: (code: 14) unable to open database file")

/-- The store, made ready for use. -/
def init : Store → Store
  | memory o => memory o
  | database d => database d.init

/-- The store as it is found when it is opened again. -/
def reopen : Store → Store
  | memory _ => memory .empty
  | database d => database d.reconnect

def list : Store → Kind → Except Error (List StoredObject)
  | memory o, kind => .ok (o.list kind)
  | database d, kind => d.list kind

def get? : Store → Kind → String → Except Error (Option StoredObject)
  | memory o, kind, id => .ok (o.get? kind id)
  | database d, kind, id => d.get? kind id

def create : Store → Kind → String → String → Except Error Store
  | memory o, kind, id, payload => (o.create kind id payload).map memory
  | database d, kind, id, payload => (d.create kind id payload).map database

def update : Store → Kind → String → String → Except Error Store
  | memory o, kind, id, payload => (o.update kind id payload).map memory
  | database d, kind, id, payload => (d.update kind id payload).map database

def delete : Store → Kind → String → Except Error Store
  | memory o, kind, id => (o.delete kind id).map memory
  | database d, kind, id => (d.delete kind id).map database

end Store

end AlertSync
