import AlertSync.Counters

/-!
# Traffic on the bus

All that can be done with a bus once it is there: a topic is notified, its subscriber looks whether
a notification waits or is dropped, and handles are copied and dropped. `Traffic` keeps, beside the
bus and what was counted, what came of each act, in the order in which they were done.
-/

namespace AlertSync

/-- What is done with a bus. -/
inductive BusAct
  | notify (topic : Topic)
  /-- The subscriber of a topic looks, without waiting. -/
  | look (topic : Topic)
  | unsubscribe (topic : Topic)
  | cloneHandle
  | dropHandle
  deriving DecidableEq, Repr

/-- Whether an act concerns a topic: it is about that topic, or about the handles. -/
def BusAct.concerns (topic : Topic) : BusAct → Bool
  | notify t | look t | unsubscribe t => t = topic
  | cloneHandle | dropHandle => true

/-- What came of an act. -/
inductive BusNote
  | delivered (topic : Topic) (delivery : Delivery)
  | arrived (topic : Topic) (arrival : Arrival)
  deriving DecidableEq, Repr

namespace BusNote

/-- The topic that a note is about. -/
def topic : BusNote → Topic
  | delivered topic _ | arrived topic _ => topic

/-- The counters after what is noted. -/
def counted (cs : Counters) : BusNote → Counters
  | delivered topic delivery => cs.countDelivery topic delivery
  | arrived .. => cs

end BusNote

namespace Bus

/-- What comes of an act. Without a handle nobody can notify, and without a subscription nobody can
look. -/
def note? (b : Bus) : BusAct → Option BusNote
  | .notify topic => if b.handles = 0 then none else some (.delivered topic (b.delivery topic))
  | .look topic =>
    if (b.slot topic).subscribed then some (.arrived topic (b.arrival topic)) else none
  | .unsubscribe _ | .cloneHandle | .dropHandle => none

/-- The bus after an act. -/
def act (b : Bus) : BusAct → Bus
  | .notify topic => if b.handles = 0 then b else b.notify topic
  | .look topic => if (b.slot topic).subscribed then b.receive topic else b
  | .unsubscribe topic => b.unsubscribe topic
  | .cloneHandle => b.cloneHandle
  | .dropHandle => b.dropHandle

end Bus

/-- A bus, what was counted, and what came of all that was done. -/
structure Traffic where
  bus : Bus
  counters : Counters
  notes : List BusNote
  deriving DecidableEq, Repr

namespace Traffic

/-- A bus with which nothing was done. -/
def start : Traffic := ⟨.fresh, .zero, []⟩

/-- The traffic after an act. -/
def act (x : Traffic) (a : BusAct) : Traffic where
  bus := x.bus.act a
  counters := ((x.bus.note? a).map fun n => n.counted x.counters).getD x.counters
  notes := x.notes ++ (x.bus.note? a).toList

end Traffic

end AlertSync
