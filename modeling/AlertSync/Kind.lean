/-!
# Kinds of stored objects

The store holds alerts, recipients and the notification settings, each under the name of its kind.
-/

namespace AlertSync

/-- What a stored object is. -/
inductive Kind
  | alert
  | recipient
  | alertConfig
  deriving DecidableEq, Repr

namespace Kind

/-- The name under which objects of a kind are stored. -/
def name : Kind → String
  | alert => "alert"
  | recipient => "recipient"
  | alertConfig => "alertConfig"

/-- Every kind. -/
def all : List Kind := [alert, recipient, alertConfig]

/-- The kind with a given name. -/
def ofName? (s : String) : Option Kind := all.find? (fun k => k.name == s)

theorem mem_all (k : Kind) : k ∈ all := by cases k <;> decide

/-- Different kinds have different names. -/
theorem name_inj {k l : Kind} (h : k.name = l.name) : k = l := by
  cases k <;> cases l <;> simp_all [name]

theorem ofName?_name (k : Kind) : ofName? k.name = some k := by cases k <;> decide

end Kind

end AlertSync
