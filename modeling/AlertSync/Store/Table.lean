import AlertSync.Store.Objects

/-!
# Stored objects in a database

The database holds all objects in one table with the primary key (kind, id), to which rows are
added at the end. It answers the same calls as the store in memory by statements on this table:
a failed insertion tells that an id is taken, and the number of rows that a statement touched tells
that it was free. Before the table is created every statement fails.
-/

namespace AlertSync

/-- A row of the table of objects. -/
structure Row where
  kind : String
  id : String
  data : String
  deriving DecidableEq, Repr

namespace Row

/-- Whether a row has a given primary key. -/
def hasKey (r : Row) (kind : Kind) (id : String) : Bool := r.kind == kind.name && r.id == id

/-- The object that a row holds. -/
def object (r : Row) : Except Error StoredObject :=
  match Kind.ofName? r.kind with
  | some kind => .ok ⟨kind, r.id, r.data⟩
  | none => .error (.unknownKind r.kind)

end Row

/-- The rows of the table in the order of their insertion. -/
structure Table where
  rows : List Row
  deriving DecidableEq, Repr

namespace Table

/-- A table without rows. -/
def empty : Table := ⟨[]⟩

/-- The rows of a kind, ordered by id. -/
def selectKind (t : Table) (kind : Kind) : List Row :=
  (t.rows.filter fun r => r.kind == kind.name).mergeSort fun a b => decide (a.id ≤ b.id)

/-- The row of a key. -/
def selectKey? (t : Table) (kind : Kind) (id : String) : Option Row :=
  t.rows.find? fun r => r.hasKey kind id

/-- The table with a row more, unless its key is taken. -/
def insert? (t : Table) (kind : Kind) (id data : String) : Option Table :=
  if t.rows.any fun r => r.hasKey kind id then none
  else some ⟨t.rows ++ [⟨kind.name, id, data⟩]⟩

/-- The table with the data of a key replaced, and how many rows that touched. -/
def updateKey (t : Table) (kind : Kind) (id data : String) : Table × Nat :=
  (⟨t.rows.map fun r => if r.hasKey kind id then { r with data := data } else r⟩,
    t.rows.countP fun r => r.hasKey kind id)

/-- The table without a key, and how many rows that touched. -/
def deleteKey (t : Table) (kind : Kind) (id : String) : Table × Nat :=
  (⟨t.rows.filter fun r => !r.hasKey kind id⟩, t.rows.countP fun r => r.hasKey kind id)

end Table

/-- A database, in which the table of objects may still have to be created. -/
structure Database where
  table : Option Table
  /-- Whether its contents outlive a connection. -/
  durable : Bool
  deriving DecidableEq, Repr

namespace Database

/-- A database without tables. -/
def blank (durable : Bool) : Database := ⟨none, durable⟩

/-- The database with its table created, if that was still to be done. -/
def init (d : Database) : Database := { d with table := some (d.table.getD .empty) }

/-- The database as a new connection finds it. -/
def reconnect (d : Database) : Database := if d.durable then d else blank false

/-- The table, once it is created. -/
def openTable (d : Database) : Except Error Table :=
  match d.table with
  | some t => .ok t
  | none => .error (.database "error returned from database: (code: 1) no such table: objects")

/-- The database with its rows replaced. -/
def withTable (d : Database) (t : Table) : Database := { d with table := some t }

def list (d : Database) (kind : Kind) : Except Error (List StoredObject) := do
  ((← d.openTable).selectKind kind).mapM Row.object

def get? (d : Database) (kind : Kind) (id : String) : Except Error (Option StoredObject) := do
  ((← d.openTable).selectKey? kind id).mapM Row.object

def create (d : Database) (kind : Kind) (id payload : String) : Except Error Database := do
  match (← d.openTable).insert? kind id payload with
  | some t => return d.withTable t
  | none => throw (.exists kind id)

/-- The database after a statement that must touch a row. -/
def touched (d : Database) (kind : Kind) (id : String) : Table × Nat → Except Error Database
  | (_, 0) => .error (.noEntry kind id)
  | (t, _) => .ok (d.withTable t)

def update (d : Database) (kind : Kind) (id payload : String) : Except Error Database := do
  d.touched kind id ((← d.openTable).updateKey kind id payload)

def delete (d : Database) (kind : Kind) (id : String) : Except Error Database := do
  d.touched kind id ((← d.openTable).deleteKey kind id)

end Database

end AlertSync
