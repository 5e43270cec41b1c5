import AlertSync.Rule

/-!
# Routes

The tree by which the alerting backend decides who hears of an alert. A route applies to a set of
labels if each of its matchers does, passes them on to its first child that applies, and hands its
settings down to children that leave them open.
-/

namespace AlertSync

/-- A node of the routing tree. What is `none` is taken from the parent. -/
inductive Route
  | mk (receiver : Option String) (matchers : SortedMap String)
      (groupWait groupInterval repeatInterval : Option Duration) (routes : List Route)

namespace Route

def receiver : Route → Option String
  | mk r _ _ _ _ _ => r

/-- The labels that must have given values. -/
def matchers : Route → SortedMap String
  | mk _ m _ _ _ _ => m

def groupWait : Route → Option Duration
  | mk _ _ w _ _ _ => w

def groupInterval : Route → Option Duration
  | mk _ _ _ i _ _ => i

def repeatInterval : Route → Option Duration
  | mk _ _ _ _ r _ => r

/-- The children. -/
def routes : Route → List Route
  | mk _ _ _ _ _ rs => rs

/-- The parts of a route that are given, and its children last. -/
def tree : Route → Tree
  | mk receiver matchers wait interval again routes =>
    .record <| Tree.part? "receiver" (receiver.map .text) ++
      (if matchers.isEmpty then [] else [("match", .textRecord matchers)]) ++
      Tree.part? "group_wait" (wait.map Duration.tree) ++
      Tree.part? "group_interval" (interval.map Duration.tree) ++
      Tree.part? "repeat_interval" (again.map Duration.tree) ++
      Tree.listPart? "routes" (treeList routes)
where
  treeList : List Route → List Tree
    | [] => []
    | r :: rs => tree r :: treeList rs

/-- The shape of a route with so many levels of routes within it. -/
def shapeWithin : Nat → Shape
  | 0 => partsOf (.record [])
  | levels + 1 => partsOf (shapeWithin levels)
where
  partsOf (child : Shape) : Shape :=
    .record [("receiver", .scalar), ("match", .map), ("group_wait", .scalar),
      ("group_interval", .scalar), ("repeat_interval", .scalar), ("routes", .list child)]

/-- The shape of a route, with as many levels as could be nested. -/
def shape : Shape := shapeWithin Form.maxDepth

/-- Reads a route that has at most as many levels. -/
def ofFormWithin? : Nat → Form → Option Route
  | 0, _ => none
  | levels + 1, f => do
    let ps ← f.parts? shape.names
    return .mk
      (← Form.part? ps "receiver" none (Form.optional? Form.text?))
      (← Form.part? ps "match" .empty Form.textMap?)
      (← Form.part? ps "group_wait" none (Form.optional? Duration.ofForm?))
      (← Form.part? ps "group_interval" none (Form.optional? Duration.ofForm?))
      (← Form.part? ps "repeat_interval" none (Form.optional? Duration.ofForm?))
      (← Form.part? ps "routes" [] (Form.list? (ofFormWithin? levels)))

/-- Reads a route; nothing must be given. A route has no more levels than the form. -/
def ofForm? (f : Form) : Option Route := ofFormWithin? (f.depth + 1) f

end Route

end AlertSync
