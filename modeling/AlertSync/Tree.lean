import AlertSync.SortedMap

/-!
# Trees

What the library writes, whatever the format: text, flags and numbers in lists and in records of
named parts. The parts of a record keep their order.
-/

namespace AlertSync

/-- A value to be written. -/
inductive Tree
  | absent
  | flag (b : Bool)
  | number (n : Nat)
  | text (s : String)
  | list (items : List Tree)
  | record (parts : List (String × Tree))
  deriving Inhabited

namespace Tree

/-- A list of texts. -/
def texts (l : List String) : Tree := .list (l.map .text)

/-- A record of texts. -/
def textRecord (m : SortedMap String) : Tree := .record (m.entries.map fun e => (e.1, .text e.2))

/-- A part that a record has only where there is a value for it. -/
def part? (name : String) (value : Option Tree) : List (String × Tree) :=
  match value with
  | some t => [(name, t)]
  | none => []

/-- A part that a record has only where its list has items. -/
def listPart? (name : String) (items : List Tree) : List (String × Tree) :=
  if items.isEmpty then [] else [(name, .list items)]

end Tree

end AlertSync
