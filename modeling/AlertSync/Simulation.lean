import AlertSync.Program
import AlertSync.StopSignal
import AlertSync.Store

/-!
# A closed world

A world in which programs run without a network: the store, the files, the bus and the counters are
values, and the backends answer from what they are told to. Calls to the backends are noted down,
and calls to them or to the store can be made to fail.
-/

namespace AlertSync

/-- By what name a call is noted down and made to fail, and which object it is about. -/
structure CallLabel where
  name : String
  id : String
  deriving DecidableEq, Repr

/-- Calls of one name that are to fail, about one object or about any. -/
structure Fault where
  name : String
  id : Option String
  message : String
  deriving DecidableEq, Repr

/-- Whether a fault makes a call fail. -/
def Fault.hits (f : Fault) (l : CallLabel) : Bool :=
  f.name == l.name && (f.id.isNone || f.id == some l.id)

/-- Who answers the calls to the backends. -/
inductive Peers
  /-- Backends that answer from what they are told to. -/
  | told
  /-- Nobody: a request gets lost on its way. -/
  | unreachable
  deriving DecidableEq, Repr

/-- A world. -/
structure World where
  store : Store
  files : FileSystem
  bus : Bus
  stop : StopSignal
  counters : Counters
  peers : Peers
  /-- What the alerting backend is told to report. -/
  live : List LiveAlert
  /-- What the platform is told to list. -/
  inventory : Inventory
  /-- What is to fail; of several faults that hit a call the first counts. -/
  faults : List Fault
  /-- The calls that the backends got, in their order. -/
  journal : List CallLabel
  /-- How many ids were given out. -/
  ids : Nat
  deriving DecidableEq

namespace World

/-- A world in which nothing has happened. -/
def start (store : Store) (peers : Peers) : World where
  store := store
  files := .empty
  bus := .fresh
  stop := .fresh
  counters := .zero
  peers := peers
  live := []
  inventory := []
  faults := []
  journal := []
  ids := 0

/-- The text of the id that is given out as the n-th. -/
def idText (n : Nat) : String :=
  let digits := Numeral.decimal n
  "gen-" ++ String.ofList (List.replicate (4 - digits.length) '0' ++ digits)

/-- What a call fails with, if it is to fail. -/
def fault? (w : World) (l : CallLabel) : Option String :=
  (w.faults.find? fun f => f.hits l).map (·.message)

/-- The answer of the store to a call, unless that is to fail. -/
def asked {α : Type} (w : World) (name id : String) (answer : Except Error α) : Except Error α :=
  match w.fault? ⟨name, id⟩ with
  | some message => .error (.store message)
  | none => answer

/-- A change of the store, unless that fails. -/
def changed (w : World) (name id : String) (change : Except Error Store) :
    Except Error Unit × World :=
  match w.asked name id change with
  | .ok store => (.ok (), { w with store := store })
  | .error e => (.error e, w)

/-- A change of the files, unless that fails. -/
def moved (w : World) : Except Error FileSystem → Except Error Unit × World
  | .ok files => (.ok (), { w with files := files })
  | .error e => (.error e, w)

/-- The answer of a backend to a call, which is noted down, unless that is to fail. -/
def peer {α : Type} (w : World) (name id : String) (answer : Except Error α) :
    Except Error α × World :=
  match w.peers with
  | .unreachable => (.error (.http .request), w)
  | .told =>
    (match w.fault? ⟨name, id⟩ with
      | some message => .error (.backend message)
      | none => answer,
     { w with journal := w.journal ++ [⟨name, id⟩] })

/-- The hosts that the platform lists for an environment. -/
def hostsOf (w : World) (environment : String) : List Host :=
  match w.inventory.find? fun e => e.1.id == environment with
  | some (_, hosts) => hosts
  | none => []

/-- The world after a notification. -/
def notify (w : World) (topic : Topic) : World :=
  { w with
    bus := w.bus.notify topic
    counters := w.counters.countDelivery topic (w.bus.delivery topic) }

/-- What a world answers to a call, and what it is afterwards. -/
def answer (c : Call) (w : World) : c.Answer × World :=
  match c with
  | .list kind => (w.asked "store.list" kind.name (w.store.list kind), w)
  | .get kind id => (w.asked "store.get" id (w.store.get? kind id), w)
  | .create kind id payload => w.changed "store.create" id (w.store.create kind id payload)
  | .update kind id payload => w.changed "store.update" id (w.store.update kind id payload)
  | .delete kind id => w.changed "store.delete" id (w.store.delete kind id)
  | .freshId => (idText (w.ids + 1), { w with ids := w.ids + 1 })
  | .notify topic => ((), w.notify topic)
  | .count counter => ((), { w with counters := w.counters.count counter })
  | .counters => (w.counters, w)
  | .liveAlerts => w.peer "alertmanager.list_alerts" "" (.ok w.live)
  | .addSilence a => w.peer "alertmanager.add_silence" a.id (.ok ())
  | .removeSilence a => w.peer "alertmanager.remove_silence" a.id (.ok ())
  | .reloadRoutes => w.peer "alertmanager.reload" "" (.ok ())
  | .reloadMetrics => w.peer "prometheus.reload" "" (.ok ())
  | .environments => w.peer "platform.list_environments" "" (.ok (w.inventory.map (·.1)))
  | .hosts environment =>
    w.peer "platform.list_hosts" environment (.ok (w.hostsOf environment))
  | .readFile path => (w.files.read path, w)
  | .writeFile path text => w.moved (w.files.write path text)
  | .moveFile source target => w.moved (w.files.move source target)
  | .removeFile path => w.moved (w.files.remove path)
  | .pause _ => (!w.stop.wakes, w)

/-- What a program comes to in a world, and what the world is afterwards. -/
def run {α : Type} (w : World) (p : Program α) : α × World := p.run answer w

/-- The world after a restart: the store is opened anew, and so is the bus. -/
def restart (w : World) : World := { w with store := w.store.reopen, bus := .fresh, stop := .fresh }

end World

end AlertSync
