/-!
# Change notifications

Whoever changes a stored object notifies the loops whose files depend on it. A topic has one slot:
a notification waits in it until the loop takes it, and while one waits further ones coalesce into
it, because the loop reads the whole store whenever it wakes.

Notifying never waits. What it did is the `Delivery`; what a loop finds when it looks is the
`Arrival`. The two topics share nothing but the handles of the bus.
-/

namespace AlertSync

/-- What changed. -/
inductive Topic
  /-- The routing tree and its receivers have to be generated anew. -/
  | alertChanged
  /-- The alerting rules have to be generated anew. -/
  | metricsChanged
  deriving DecidableEq, Repr

namespace Topic

/-- The word for a topic. -/
def name : Topic → String
  | alertChanged => "alert-changed"
  | metricsChanged => "metrics-changed"

def all : List Topic := [alertChanged, metricsChanged]

/-- The topic with a given name. -/
def ofName? (s : String) : Option Topic := all.find? (fun t => t.name == s)

theorem ofName?_name (t : Topic) : ofName? t.name = some t := by cases t <;> decide

end Topic

/-- What became of a notification. -/
inductive Delivery
  /-- It waits in the slot. -/
  | queued
  /-- One was waiting already. -/
  | coalesced
  /-- Nobody subscribes any more. -/
  | closed
  deriving DecidableEq, Repr

/-- The word for what became of a notification. -/
def Delivery.name : Delivery → String
  | queued => "queued"
  | coalesced => "coalesced"
  | closed => "closed"

/-- What a subscriber finds. -/
inductive Arrival
  | received
  | empty
  /-- Nothing waits and nothing can come any more. -/
  | closed
  deriving DecidableEq, Repr

/-- The word for what a subscriber finds. -/
def Arrival.name : Arrival → String
  | received => "received"
  | empty => "empty"
  | closed => "closed"

/-- The place of one topic's notification. -/
structure Slot where
  /-- Whether a notification waits. -/
  full : Bool
  /-- Whether there is somebody to take it. -/
  subscribed : Bool
  deriving DecidableEq, Repr

namespace Slot

/-- A slot with a subscriber and nothing in it. -/
def fresh : Slot := ⟨false, true⟩

/-- What becomes of a notification. -/
def delivery (s : Slot) : Delivery :=
  if !s.subscribed then .closed else if s.full then .coalesced else .queued

/-- The slot after a notification. -/
def notify (s : Slot) : Slot := { s with full := s.full || s.subscribed }

/-- The slot after its subscriber took what was there. -/
def take (s : Slot) : Slot := { s with full := false }

/-- The slot without its subscriber; what was in it is lost. -/
def unsubscribe (_ : Slot) : Slot := ⟨false, false⟩

end Slot

/-- The slots of the topics, and how many handles there are to notify with. -/
structure Bus where
  alertChanged : Slot
  metricsChanged : Slot
  handles : Nat
  deriving DecidableEq, Repr

namespace Bus

/-- A bus with one handle and both topics subscribed. -/
def fresh : Bus := ⟨.fresh, .fresh, 1⟩

/-- The slot of a topic. -/
def slot (b : Bus) : Topic → Slot
  | .alertChanged => b.alertChanged
  | .metricsChanged => b.metricsChanged

/-- The bus with the slot of a topic changed. -/
def modify (b : Bus) (topic : Topic) (f : Slot → Slot) : Bus :=
  match topic with
  | .alertChanged => { b with alertChanged := f b.alertChanged }
  | .metricsChanged => { b with metricsChanged := f b.metricsChanged }

theorem slot_modify (b : Bus) (t u : Topic) (f : Slot → Slot) :
    (b.modify t f).slot u = if u = t then f (b.slot u) else b.slot u := by
  cases t <;> cases u <;> rfl

theorem handles_modify (b : Bus) (t : Topic) (f : Slot → Slot) :
    (b.modify t f).handles = b.handles := by cases t <;> rfl

/-- The bus after a notification. -/
def notify (b : Bus) (topic : Topic) : Bus := b.modify topic Slot.notify

/-- What becomes of a notification. -/
def delivery (b : Bus) (topic : Topic) : Delivery := (b.slot topic).delivery

/-- What the subscriber of a topic finds: the notification that waits, even when no handle is left;
the end only once nothing waits. -/
def arrival (b : Bus) (topic : Topic) : Arrival :=
  if (b.slot topic).full then .received else if b.handles = 0 then .closed else .empty

/-- The bus after the subscriber of a topic has looked. -/
def receive (b : Bus) (topic : Topic) : Bus := b.modify topic Slot.take

/-- The bus without the subscriber of a topic. -/
def unsubscribe (b : Bus) (topic : Topic) : Bus := b.modify topic Slot.unsubscribe

/-- The bus with one more handle, if there was one to copy. -/
def cloneHandle (b : Bus) : Bus :=
  { b with handles := if b.handles = 0 then 0 else b.handles + 1 }

/-- The bus with one handle less. -/
def dropHandle (b : Bus) : Bus := { b with handles := b.handles - 1 }

end Bus

end AlertSync
