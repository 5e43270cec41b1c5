import AlertSync.Form
import AlertSync.Yaml.Reader
import AlertSync.Yaml.Value

/-!
# What a YAML document holds

A document is one node whose references lead to other nodes of the document. It can be read as a
value, in which every scalar denotes what its text does, or as a form, which holds the parts that a
type asks for and whose scalars keep all their readings.

References are followed at most a hundred times as often as the document has marks, and collections
may be nested only so deep; what lies beyond cannot be read.
-/

namespace AlertSync.Yaml

open Numeral (Binary64)

/-- A document: its node, if it has one, and the nodes that references lead to. -/
structure Document where
  root : Option (Node Nat)
  targets : List (Nat × Node Nat)

namespace Node

/-! ## Names -/

/-- The names that were given so far, each with its number. -/
abbrev Names := List (String × Nat)

/-- The numbered properties. A name gets the number of names that were given before it. -/
def nameProperties (p : Properties String) : StateT Names Option (Properties Nat) := fun names =>
  match p.anchor with
  | none => some (⟨none, p.tag⟩, names)
  | some a =>
    let number := names.length
    some (⟨some number, p.tag⟩, (a, number) :: names.filter fun e => e.1 != a)

mutual

/-- The node with numbers for names; there is none if a reference has no target before it. -/
def number : Node String → StateT Names Option (Node Nat)
  | .scalar p w t => do return .scalar (← nameProperties p) w t
  | .sequence p items => do
    let p ← nameProperties p
    return .sequence p (← numberItems items)
  | .mapping p entries => do
    let p ← nameProperties p
    return .mapping p (← numberEntries entries)
  | .reference a => fun names => (names.lookup a).map fun n => (.reference n, names)

def numberItems : List (Node String) → StateT Names Option (List (Node Nat))
  | [] => return []
  | n :: r => do
    let n ← number n
    return n :: (← numberItems r)

def numberEntries :
    List (Node String × Node String) → StateT Names Option (List (Node Nat × Node Nat))
  | [] => return []
  | (k, v) :: r => do
    let k ← number k
    let v ← number v
    return (k, v) :: (← numberEntries r)

end

/-- The number of a node, with the node. -/
def target (p : Properties Nat) (n : Node Nat) : List (Nat × Node Nat) :=
  match p.anchor with
  | some a => [(a, n)]
  | none => []

mutual

/-- The nodes that have numbers, in the order in which they begin. -/
def targets : Node Nat → List (Nat × Node Nat)
  | .scalar p w t => target p (.scalar p w t)
  | .sequence p items => target p (.sequence p items) ++ targetsOfItems items
  | .mapping p entries => target p (.mapping p entries) ++ targetsOfEntries entries
  | .reference _ => []

def targetsOfItems : List (Node Nat) → List (Nat × Node Nat)
  | [] => []
  | n :: r => targets n ++ targetsOfItems r

def targetsOfEntries : List (Node Nat × Node Nat) → List (Nat × Node Nat)
  | [] => []
  | (k, v) :: r => targets k ++ targets v ++ targetsOfEntries r

end

mutual

/-- How many marks a node has: one for a scalar or reference, two for the ends of a collection. -/
def marks : Node Nat → Nat
  | .scalar .. | .reference _ => 1
  | .sequence _ items => 2 + marksOfItems items
  | .mapping _ entries => 2 + marksOfEntries entries

def marksOfItems : List (Node Nat) → Nat
  | [] => 0
  | n :: r => marks n + marksOfItems r

def marksOfEntries : List (Node Nat × Node Nat) → Nat
  | [] => 0
  | (k, v) :: r => marks k + marks v + marksOfEntries r

end

end Node

namespace Document

/-- The document without a node. -/
def blank : Document := ⟨none, []⟩

/-- The document of a node; of the nodes with one number the last counts. -/
def ofNode? (n : Node String) : Option Document := do
  let (n, _) ← n.number.run []
  return ⟨some n, n.targets.reverse⟩

/-- The one document of a text. -/
def parse? (s : String) : Option Document := do
  match ← Reader.document? s.toList with
  | none => return blank
  | some n => ofNode? n

/-- How often references are followed at most. -/
def maxJumps (d : Document) : Nat := 100 * (d.root.map Node.marks).getD 0

/-- The node that a node stands for, after one more jump if it is a reference. -/
def follow? (d : Document) (jumps : Nat) : Node Nat → Option (Node Nat × Nat)
  | .reference a =>
    if jumps < d.maxJumps then (d.targets.lookup a).map fun n => (n, jumps + 1) else none
  | n => some (n, jumps)

/-! ## Values -/

/-- The tags of YAML's own types. -/
def typeTag (name : String) : String := "tag:yaml.org,2002:" ++ name

/-- The characters without an exclamation mark at their head, unless there is nothing else. -/
def unmarked : List Char → List Char
  | '!' :: c :: r => c :: r
  | cs => cs

/-- The name of a tag that is local to the document: what follows its exclamation mark. A second
mark does not count either, and the mark alone is its own name. -/
def localTag? (tag : Option String) : Option String :=
  match tag.map String.toList with
  | some ('!' :: name) => some (String.ofList (unmarked (unmarked ('!' :: name))))
  | _ => none

/-- What a scalar denotes by its text. -/
def plainValue? (cs : List Char) : Option Value :=
  match Plain.of cs with
  | .null => some .null
  | .bool b => some (.bool b)
  | .integer n => some (.number (.integer n))
  | .wide => none
  | .float x => some (.number (.float x))
  | .text => some (.string (String.ofList cs))

/-- What a scalar denotes by how it is written. -/
def writtenValue? (w : Written) (cs : List Char) : Option Value :=
  if w = .plain then plainValue? cs else some (.string (String.ofList cs))

/-- What a scalar with a tag of YAML's own types denotes. -/
def typedValue? (tag : String) (cs : List Char) : Option Value :=
  if tag = typeTag "bool" then (Plain.bool? cs).map .bool
  else if tag = typeTag "int" then
    match Plain.sized? cs with
    | some (.integer n) => some (.number (.integer n))
    | _ => none
  else if tag = typeTag "float" then (Plain.float? cs).map fun x => .number (.float x)
  else if tag = typeTag "null" then (if Plain.isNull cs then some .null else none)
  else some (.string (String.ofList cs))

/-- What a scalar denotes. -/
def scalarValue? (tag : Option String) (w : Written) (cs : List Char) : Option Value :=
  match localTag? tag, tag with
  | some name, _ => (writtenValue? w cs).map (.tagged name)
  | none, some t => typedValue? t cs
  | none, none => writtenValue? w cs

/-- The value under the tag of a collection. -/
def collectionValue (tag : Option String) (v : Value) : Value :=
  match localTag? tag with
  | some name => .tagged name v
  | none => v

/-- Whether floating-point numbers are equal: zeros of either sign are, and so is what is no
number. -/
def sameFloat (x y : Binary64) : Bool := x == y || (x.isZero && y.isZero)

mutual

/-- Whether two values count as the same key. The order of the entries of a mapping does not
matter. -/
def same : Value → Value → Bool
  | .null, .null => true
  | .bool a, .bool b => a == b
  | .number (.integer a), .number (.integer b) => a == b
  | .number (.float a), .number (.float b) => sameFloat a b
  | .string a, .string b => a == b
  | .sequence a, .sequence b => sameItems a b
  | .mapping a, .mapping b => a.length == b.length && sameEntries a b
  | .tagged s a, .tagged t b => s == t && same a b
  | _, _ => false

def sameItems : List Value → List Value → Bool
  | [], [] => true
  | a :: r, b :: s => same a b && sameItems r s
  | _, _ => false

/-- Whether every entry of the first list is in the second. -/
def sameEntries : List (Value × Value) → List (Value × Value) → Bool
  | [], _ => true
  | (k, v) :: r, l => (l.any fun e => same k e.1 && same v e.2) && sameEntries r l

end

/-- Whether no key comes twice. -/
def distinctKeys : List (Value × Value) → Bool
  | [] => true
  | (k, _) :: r => !(r.any fun e => same e.1 k) && distinctKeys r

/-- Runs a reader over a list, counting jumps. -/
def eachWith? {α β : Type} (read : Nat → α → Option (β × Nat)) (jumps : Nat) :
    List α → Option (List β × Nat)
  | [] => some ([], jumps)
  | a :: r => do
    let (b, jumps) ← read jumps a
    let (rest, jumps) ← eachWith? read jumps r
    return (b :: rest, jumps)

/-- The value of a node within as many levels of collections, and the jumps so far. -/
def valueOf? (d : Document) : Nat → Nat → Node Nat → Option (Value × Nat)
  | depth, jumps, n => do
    match ← d.follow? jumps n with
    | (.scalar p w t, jumps) => (scalarValue? p.tag w t).map fun v => (v, jumps)
    | (.sequence p items, jumps) =>
      match depth with
      | 0 => none
      | depth + 1 => do
        let (vs, jumps) ← eachWith? (fun j n => valueOf? d depth j n) jumps items
        return (collectionValue p.tag (.sequence vs), jumps)
    | (.mapping p entries, jumps) =>
      match depth with
      | 0 => none
      | depth + 1 => do
        let (es, jumps) ← eachWith? (fun j (e : Node Nat × Node Nat) => do
          let (k, j) ← valueOf? d depth j e.1
          let (v, j) ← valueOf? d depth j e.2
          return ((k, v), j)) jumps entries
        if distinctKeys es then return (collectionValue p.tag (.mapping es), jumps) else none
    | (.reference _, _) => none

/-- The value of a document; without a node it is null. -/
def value? (d : Document) : Option Value :=
  match d.root with
  | none => some .null
  | some n => (d.valueOf? Form.maxDepth 0 n).map (·.1)

/-! ## Forms -/

/-- The readings of a scalar. Its text can always be had; a flag only where it is written plainly,
or as a literal block that its tag says to be one. -/
def readings (tag : Option String) (w : Written) (cs : List Char) : Readings where
  text := some (String.ofList cs)
  flag := if w = .plain ∨ (w = .literal ∧ tag = some (typeTag "bool")) then Plain.bool? cs else none
  number := none
  absent :=
    if w ≠ .plain then some false
    else if tag = some (typeTag "null") then (if Plain.isNull cs then some true else none)
    else if tag.isSome then some false
    else some (cs.isEmpty || Plain.isNull cs)
  empty := w == .plain && cs.isEmpty

/-- Runs a reader over a list, counting jumps. -/
def each {α β : Type} (read : Nat → α → β × Nat) (jumps : Nat) : List α → List β × Nat
  | [] => ([], jumps)
  | a :: r =>
    let (b, jumps) := read jumps a
    let (rest, jumps) := each read jumps r
    (b :: rest, jumps)

/-- The name that a key gives to a part. -/
def keyText? (d : Document) (jumps : Nat) (n : Node Nat) : Option String × Nat :=
  match d.follow? jumps n with
  | some (.scalar _ _ t, jumps) => (some (String.ofList t), jumps)
  | some (_, jumps) => (none, jumps)
  | none => (none, jumps)

/-- The form of what is asked for of a node, within as many levels of collections, and the jumps so
far. Parts that nobody asks for are passed over, and references within them are not followed. -/
def formOf (d : Document) : Nat → Shape → Nat → Node Nat → Form × Nat
  | depth, shape, jumps, n =>
    match d.follow? jumps n with
    | some (.scalar p w t, jumps) => (.scalar (readings p.tag w t), jumps)
    | some (.sequence _ items, jumps) =>
      match depth, shape with
      | depth + 1, .list shape =>
        let (fs, jumps) := each (fun j n => formOf d depth shape j n) jumps items
        (.list false fs, jumps)
      | _, _ => (.unreadable, jumps)
    | some (.mapping _ entries, jumps) =>
      match depth with
      | 0 => (.unreadable, jumps)
      | depth + 1 =>
        if shape.hasParts then
          let (ps, jumps) := each (fun j (e : Node Nat × Node Nat) =>
            let (name, j) := d.keyText? j e.1
            match shape.part? name with
            | some shape =>
              let (f, j) := formOf d depth shape j e.2
              ((name, f), j)
            | none => ((name, .unreadable), j)) jumps entries
          (.record ps, jumps)
        else (.unreadable, jumps)
    | some (.reference _, jumps) => (.unreadable, jumps)
    | none => (.unreadable, jumps)

/-- The form of what is asked for of a document. Without a node it is absent, and empty where a
collection is asked for. -/
def form (d : Document) (shape : Shape) : Form :=
  match d.root with
  | none => .scalar ⟨none, none, none, some true, true⟩
  | some n => (d.formOf Form.maxDepth shape 0 n).1

end Document

/-- The value that a YAML text holds. -/
def value? (s : String) : Option Value := (Document.parse? s).bind Document.value?

/-- How what is asked for of a YAML text can be read. -/
def form? (shape : Shape) (s : String) : Option Form := (Document.parse? s).map (·.form shape)

end AlertSync.Yaml
