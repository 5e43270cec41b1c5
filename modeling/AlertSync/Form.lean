import AlertSync.SortedMap

/-!
# Forms

What the library reads, whatever the format, before it is known which type it holds. A scalar keeps
every reading that its format allows: as text, as a flag, as a number, as an absent value, as an
empty collection. In some formats a list may stand for a record whose parts are given in their
order.

Types are read off a form by the functions of this module: each has a result only where the form
can be read as asked. The shape of a type says which parts of a text it asks for.
-/

namespace AlertSync

/-- How a scalar can be read. -/
structure Readings where
  text : Option String
  flag : Option Bool
  number : Option Nat
  /-- Whether it stands for an absent value; `none` if it claims to but does not. -/
  absent : Option Bool
  /-- Whether it stands for a list or record without parts. -/
  empty : Bool
  deriving DecidableEq, Repr

/-- A text in parts, before it is known which type it holds. -/
inductive Form
  | scalar (readings : Readings)
  /-- If it is `positional`, the items may stand for the parts of a record. -/
  | list (positional : Bool) (items : List Form)
  /-- The names of parts are `none` where they are no text. -/
  | record (parts : List (Option String × Form))
  /-- What cannot be read as anything. -/
  | unreadable
  deriving Inhabited

namespace Form

/-- How deep lists and records are nested. -/
def depth : Form → Nat
  | scalar _ | unreadable => 0
  | list _ items => depthList items + 1
  | record parts => depthParts parts + 1
where
  depthList : List Form → Nat
    | [] => 0
    | f :: r => max (depth f) (depthList r)
  depthParts : List (Option String × Form) → Nat
    | [] => 0
    | (_, f) :: r => max (depth f) (depthParts r)

def text? : Form → Option String
  | scalar r => r.text
  | _ => none

def flag? : Form → Option Bool
  | scalar r => r.flag
  | _ => none

/-- A number that 16 bits hold. -/
def port? : Form → Option Nat
  | scalar r => r.number.filter (· < UInt16.size)
  | _ => none

/-- A value that may be absent. -/
def optional? {α : Type} (read : Form → Option α) : Form → Option (Option α)
  | scalar r =>
    match r.absent with
    | some true => some none
    | some false => (read (scalar r)).map some
    | none => none
  | f => (read f).map some

/-- A value that counts as `default` where it is absent. -/
def orElse? {α : Type} (default : α) (read : Form → Option α) (f : Form) : Option α :=
  (optional? read f).map (·.getD default)

def list? {α : Type} (read : Form → Option α) : Form → Option (List α)
  | list _ items => items.mapM read
  | scalar r => if r.empty then some [] else none
  | _ => none

/-- A map of texts; of a name that is given twice the last value counts. -/
def textMap? : Form → Option (SortedMap String)
  | record parts =>
    let texts := parts.mapM fun (p : Option String × Form) => do return (← p.1, ← p.2.text?)
    texts.map SortedMap.ofList
  | scalar r => if r.empty then some .empty else none
  | _ => none

/-- One of the words of an enumeration, given as the word or as a record of only that word. -/
def word? {α : Type} (ofName? : String → Option α) : Form → Option α
  | scalar r => r.text.bind ofName?
  | record [(some name, scalar r)] => if r.absent = some true then ofName? name else none
  | _ => none

/-- The parts of a record under the names that it knows: each name at most once, other parts left
out; or the items of a positional list, in the order of the names and no more than there are
names. -/
def parts? (names : List String) : Form → Option (List (String × Form))
  | record parts => do
    let named ← parts.mapM fun (p : Option String × Form) => p.1.map (·, p.2)
    let known := named.filter fun p => names.contains p.1
    if (known.map (·.1)).Nodup then some known else none
  | list true items => if items.length ≤ names.length then some (names.zip items) else none
  | list false _ => none
  | scalar r => if r.empty then some [] else none
  | unreadable => none

/-- A part that must be there. -/
def required? {α : Type} (parts : List (String × Form)) (name : String)
    (read : Form → Option α) : Option α :=
  (parts.lookup name).bind read

/-- A part that counts as `default` where it is missing. -/
def part? {α : Type} (parts : List (String × Form)) (name : String) (default : α)
    (read : Form → Option α) : Option α :=
  match parts.lookup name with
  | some f => read f
  | none => some default

/-- How deep lists and records may be nested. -/
def maxDepth : Nat := 128

end Form

/-- Which parts of a text a type asks for. Whatever else the text holds is passed over. -/
inductive Shape
  | scalar
  | list (items : Shape)
  /-- A scalar under each name. -/
  | map
  | record (parts : List (String × Shape))
  deriving Inhabited

namespace Shape

/-- The names that a record knows. -/
def names : Shape → List String
  | record parts => parts.map (·.1)
  | _ => []

/-- What is asked for under a name, if anything is. -/
def part? (name : Option String) : Shape → Option Shape
  | map => some scalar
  | record parts => name.bind fun n => parts.lookup n
  | _ => none

/-- Whether parts may stand under names. -/
def hasParts : Shape → Bool
  | map | record _ => true
  | _ => false

end Shape

end AlertSync
