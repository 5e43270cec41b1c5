import AlertSync.Counters
import AlertSync.Outcome
import AlertSync.StopSignal
import AlertSync.Ticker

/-!
# Synchronization loops

A loop waits until its ticker is due or its topic is notified, runs one sync, and, if that asks for
it, waits for the reload delay and has the backend reload. It looks at the stop signal whenever it
waits, and before anything else.

Time is a number of milliseconds. `step?` is what the loop does at the present moment without
waiting; `due?` is when a wait ends by itself; `advance` lets time pass. Every move of the loop
leaves less to be done at the moment (`work`), so it always comes to wait.

What the loop calls is known only by how it behaves: how long each call takes and how it ends.
-/

namespace AlertSync

/-- How one call of a loop goes: how long it takes, and what it ends with if it does not fail. -/
structure Behaviour where
  result : Option Outcome
  duration : Nat
  deriving DecidableEq, Repr

/-- A call that is over at once and asks for nothing. -/
def Behaviour.idle : Behaviour := ⟨some .done, 0⟩

/-- What a loop calls. -/
inductive LoopCall
  | sync
  | reload
  deriving DecidableEq, Repr

/-- The word for what a loop calls. -/
def LoopCall.name : LoopCall → String
  | sync => "sync"
  | reload => "reload"

/-- A call that was started: when, and what it is to end with. -/
structure LoopEvent where
  time : Nat
  call : LoopCall
  result : Option Outcome
  deriving DecidableEq, Repr

/-- What wakes a loop. -/
inductive WakeSource
  | interval (ticker : Ticker)
  | signal (topic : Topic)
  deriving DecidableEq, Repr

/-- What a loop is doing. -/
inductive LoopPhase
  /-- It waits to be woken. -/
  | waiting
  /-- A sync runs until a given time. -/
  | syncing (finish : Nat) (result : Option Outcome)
  /-- It waits for the reload delay to be over. -/
  | debouncing (finish : Nat)
  /-- A reload runs until a given time. -/
  | reloading (finish : Nat) (result : Option Outcome)
  /-- It has ended. -/
  | finished
  deriving DecidableEq, Repr

/-- A loop, and all that it deals with. -/
structure Loop where
  /-- The name under which its cycles are counted. -/
  name : String
  source : WakeSource
  reloadDelay : Nat
  /-- How the next syncs go; when none is left, they are idle. -/
  syncs : List Behaviour
  /-- How the next reloads go; when none is left, they are idle. -/
  reloads : List Behaviour
  now : Nat
  phase : LoopPhase
  bus : Bus
  stop : StopSignal
  counters : Counters
  /-- The calls that were started, in their order. -/
  events : List LoopEvent
  deriving DecidableEq, Repr

namespace Loop

/-- A loop that starts now, at time zero. -/
def start (name : String) (source : WakeSource) (reloadDelay : Nat)
    (syncs reloads : List Behaviour) : Loop where
  name := name
  source := source
  reloadDelay := reloadDelay
  syncs := syncs
  reloads := reloads
  now := 0
  phase := .waiting
  bus := .fresh
  stop := .fresh
  counters := .zero
  events := []

def isFinished (l : Loop) : Bool := l.phase == .finished

/-- The longest time that anything but a ticker waits for: thirty years of 365 days. -/
def longestWait : Nat := 30 * 365 * 24 * 60 * 60 * 1000

/-- When a wait ends that begins now. -/
def after (l : Loop) (duration : Nat) : Nat := l.now + min duration longestWait

/-- The end of a cycle is counted, and the loop waits again. -/
def endCycle (l : Loop) (result : CycleEnd) : Loop :=
  { l with counters := l.counters.count (.cycle l.name result), phase := .waiting }

/-- The next sync starts. -/
def startSync (l : Loop) : Loop :=
  let b := l.syncs.headD .idle
  { l with
    syncs := l.syncs.tail
    phase := .syncing (l.after b.duration) b.result
    events := l.events ++ [⟨l.now, .sync, b.result⟩] }

/-- The next reload starts. -/
def startReload (l : Loop) : Loop :=
  let b := l.reloads.headD .idle
  { l with
    reloads := l.reloads.tail
    phase := .reloading (l.after b.duration) b.result
    events := l.events ++ [⟨l.now, .reload, b.result⟩] }

/-- A sync has ended. -/
def endSync (l : Loop) : Option Outcome → Loop
  | none => l.endCycle .failure
  | some .done => l.endCycle .success
  | some .reload =>
    if l.reloadDelay = 0 then l.startReload
    else { l with phase := .debouncing (l.after l.reloadDelay) }

/-- A reload has ended. -/
def endReload (l : Loop) : Option Outcome → Loop
  | none => l.endCycle .reloadFailure
  | some _ => l.endCycle .success

/-- The loop ends, and with it its subscription and its view of the stop signal. -/
def finish (l : Loop) : Loop :=
  { l with
    phase := .finished
    stop := l.stop.dropObserver
    bus := match l.source with
      | .interval _ => l.bus
      | .signal topic => l.bus.unsubscribe topic }

/-- What a waiting loop does that was not stopped. -/
def wake? (l : Loop) : Option Loop :=
  match l.source with
  | .interval t =>
    if t.deadline ≤ l.now then some { l with source := .interval (t.take l.now) }.startSync
    else none
  | .signal topic =>
    match l.bus.arrival topic with
    | .received => some { l with bus := l.bus.receive topic }.startSync
    | .closed => some l.finish
    | .empty => none

/-- What the loop does at this moment; nothing if it can only wait. -/
def step? (l : Loop) : Option Loop :=
  match l.phase with
  | .finished => none
  | .waiting => if l.stop.wakes then some l.finish else l.wake?
  | .syncing finish result => if finish ≤ l.now then some (l.endSync result) else none
  | .debouncing finish =>
    if l.stop.wakes then some { l with phase := .waiting }
    else if finish ≤ l.now then some l.startReload
    else none
  | .reloading finish result => if finish ≤ l.now then some (l.endReload result) else none

/-- How many moves are at most left to a cycle in a phase. -/
def LoopPhase.rank : LoopPhase → Nat
  | .finished => 0
  | .waiting => 1
  | .reloading .. => 2
  | .debouncing _ => 3
  | .syncing .. => 4

/-- How often the loop can at most be woken without time passing. -/
def pending (l : Loop) : Nat :=
  match l.source with
  | .interval t => l.now + 1 - t.deadline
  | .signal topic => if (l.bus.slot topic).full then 1 else 0

/-- A bound on the moves that are left to the loop at this moment. -/
def work (l : Loop) : Nat := 4 * l.pending + LoopPhase.rank l.phase

theorem work_startReload (l : Loop) : l.startReload.work = 4 * l.pending + 2 := rfl

theorem work_finish (l : Loop) : l.finish.work ≤ 4 * l.pending := by
  rcases hs : l.source with t | topic
  · simp [work, finish, pending, hs, LoopPhase.rank]
  · simp [work, finish, pending, hs, LoopPhase.rank, Bus.unsubscribe, Bus.slot_modify,
      Slot.unsubscribe]

theorem work_endSync (l : Loop) (r : Option Outcome) : (l.endSync r).work ≤ 4 * l.pending + 3 := by
  rcases r with _ | _ | _
  · exact Nat.le_add_right _ 2
  · rw [endSync]
    split
    · exact Nat.le_add_right _ 1
    · exact Nat.le_refl _
  · exact Nat.le_add_right _ 2

theorem work_endReload (l : Loop) (r : Option Outcome) :
    (l.endReload r).work = 4 * l.pending + 1 := by
  rcases r with _ | _ <;> rfl

theorem work_wake? {l l' : Loop} (h : l.wake? = some l') : l'.work < 4 * l.pending + 1 := by
  rcases hs : l.source with t | topic
  · simp only [wake?, hs] at h
    split at h
    · next hdue =>
      obtain rfl := Option.some.inj h
      have := t.deadline_lt_take l.now
      simp only [work, pending, startSync, LoopPhase.rank, hs]
      omega
    · simp at h
  · simp only [wake?, hs] at h
    split at h
    · next hfull =>
      obtain rfl := Option.some.inj h
      have hf : (l.bus.slot topic).full = true := by
        simp only [Bus.arrival] at hfull
        split at hfull
        · assumption
        · split at hfull <;> simp at hfull
      simp [work, pending, startSync, LoopPhase.rank, hs, hf, Bus.receive, Bus.slot_modify,
        Slot.take]
    · obtain rfl := Option.some.inj h
      have := l.work_finish
      omega
    · simp at h

/-- Every move leaves less to be done. -/
theorem work_step? {l l' : Loop} (h : l.step? = some l') : l'.work < l.work := by
  have hw : l.work = 4 * l.pending + LoopPhase.rank l.phase := rfl
  rcases hp : l.phase with _ | ⟨e, r⟩ | e | ⟨e, r⟩ | _ <;>
    simp only [step?, hp] at h <;> simp only [hp, LoopPhase.rank] at hw
  · split at h
    · obtain rfl := Option.some.inj h
      have := l.work_finish
      omega
    · have := work_wake? h
      omega
  · split at h
    · obtain rfl := Option.some.inj h
      have := l.work_endSync r
      omega
    · simp at h
  · split at h
    · obtain rfl := Option.some.inj h
      rw [hw]
      exact Nat.add_lt_add_left (by decide : 1 < 3) _
    · split at h
      · obtain rfl := Option.some.inj h
        have := l.work_startReload
        omega
      · simp at h
  · split at h
    · obtain rfl := Option.some.inj h
      have := l.work_endReload r
      omega
    · simp at h
  · simp at h

/-- The loop after all that it can do at this moment. -/
def settle (l : Loop) : Loop :=
  match _h : l.step? with
  | none => l
  | some l' => settle l'
termination_by l.work
decreasing_by exact work_step? _h

/-- When the present wait ends by itself. -/
def due? (l : Loop) : Option Nat :=
  match l.phase with
  | .finished => none
  | .waiting =>
    match l.source with
    | .interval t => some t.deadline
    | .signal _ => none
  | .syncing finish _ | .debouncing finish | .reloading finish _ => some finish

/-- The loop at a later moment, every wait ended when it was due. -/
def runUntil (l : Loop) (time : Nat) : Loop :=
  let settled := l.settle
  match settled.due? with
  | some due =>
    if l.now < due ∧ due ≤ time then runUntil { settled with now := due } time
    else { settled with now := time }.settle
  | none => { settled with now := time }.settle
termination_by time - l.now

/-- The loop after some time. -/
def advance (l : Loop) (ms : Nat) : Loop := l.runUntil (l.now + ms)

/-- A topic is notified. -/
def notify (l : Loop) (topic : Topic) : Loop :=
  { l with
    bus := l.bus.notify topic
    counters := l.counters.countDelivery topic (l.bus.delivery topic) }

/-- A handle of the bus is dropped. -/
def dropHandle (l : Loop) : Loop := { l with bus := l.bus.dropHandle }

/-- The stop signal is given. -/
def trigger (l : Loop) : Loop := { l with stop := l.stop.trigger }

/-- The handle of the stop signal is dropped. -/
def release (l : Loop) : Loop := { l with stop := l.stop.release }

end Loop

end AlertSync
