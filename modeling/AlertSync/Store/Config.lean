import AlertSync.Error
import AlertSync.Tree

/-!
# The choice of a store
-/

namespace AlertSync

/-- Where objects are kept. -/
inductive StoreType
  | memory
  | sqlite
  deriving DecidableEq, Repr

namespace StoreType

/-- The word for a type of store. -/
def name : StoreType → String
  | memory => "memory"
  | sqlite => "sqlite"

def all : List StoreType := [memory, sqlite]

/-- The type of store with a given name. -/
def ofName? (s : String) : Option StoreType := all.find? (fun t => t.name == s)

theorem ofName?_name (t : StoreType) : ofName? t.name = some t := by cases t <;> decide

end StoreType

/-- Where objects are kept, and the file of the database. -/
structure StoreConfig where
  type : StoreType
  path : Option String
  deriving DecidableEq, Repr

namespace StoreConfig

/-- The value that the choice is shown as. -/
def tree (c : StoreConfig) : Tree :=
  .record ([("type", .text c.type.name)] ++ Tree.part? "sqlite_path" (c.path.map .text))

/-- What is wrong with the choice: a database needs a path. -/
def flaw? (c : StoreConfig) : Option Misconfigured :=
  if c.type == .sqlite && c.path.isNone then some .databaseWithoutPath else none

end StoreConfig

end AlertSync
