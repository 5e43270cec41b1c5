/-!
# Nodes of a YAML document

What the text of a document consists of, before anything is decided about what its scalars denote:
scalars as they were written, collections, and references to nodes that have a name. Any node but a
reference may have a name, its anchor, and a tag.
-/

namespace AlertSync.Yaml

/-- What stands before a node: its name, and its tag. -/
structure Properties (ν : Type) where
  anchor : Option ν
  tag : Option String
  deriving DecidableEq, Repr

namespace Properties

variable {ν : Type}

def none : Properties ν := ⟨.none, .none⟩

def isEmpty (p : Properties ν) : Bool := p.anchor.isNone && p.tag.isNone

/-- All properties of both, if neither is given twice. -/
def merge? (p q : Properties ν) : Option (Properties ν) :=
  if (p.anchor.isSome && q.anchor.isSome) || (p.tag.isSome && q.tag.isSome) then .none
  else some ⟨p.anchor <|> q.anchor, p.tag <|> q.tag⟩

end Properties

/-- How a scalar was written, as far as it matters for what it denotes. -/
inductive Written
  | plain
  | literal
  | quoted
  deriving DecidableEq, Repr

/-- A node of a document whose nodes are named by values of `ν`. -/
inductive Node (ν : Type)
  | scalar (properties : Properties ν) (written : Written) (text : List Char)
  | sequence (properties : Properties ν) (items : List (Node ν))
  | mapping (properties : Properties ν) (entries : List (Node ν × Node ν))
  /-- The node that has the given anchor. -/
  | reference (anchor : ν)

namespace Node

variable {ν : Type}

/-- The node that stands where there is none. -/
def empty (p : Properties ν) : Node ν := .scalar p .plain []

/-- The node with its properties. A reference has none. -/
def withProperties? (p : Properties ν) : Node ν → Option (Node ν)
  | scalar _ w t => some (scalar p w t)
  | sequence _ items => some (sequence p items)
  | mapping _ entries => some (mapping p entries)
  | reference a => if p.isEmpty then some (reference a) else none

end Node

end AlertSync.Yaml
