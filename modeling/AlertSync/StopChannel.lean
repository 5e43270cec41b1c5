import AlertSync.StopSignal

/-!
# The channel of the stop signal

How a stop signal reaches those who observe it, one by one. The handle sends a value into a channel;
a value that is stored gets the next version, and one that is sent while nobody observes is not
stored. Each observer keeps the version that it saw last.

An observer that waits looks at the value, and as long as that is not the stop it asks for a change:
there is one if there is a version that it has not seen, and there will be none once the handle is
gone. A wait is made of single steps (`step?`). Between any two of them anything else may happen,
and after any of them the wait may be given up. `settle` is a wait that is left to itself until it
ends or has to be woken.

`summary` is what a loop has to know of all this.
-/

namespace AlertSync

/-- Where an observer is with its wait. -/
inductive Attention
  /-- It does not wait. -/
  | idle
  /-- It is about to look at the value. -/
  | looking
  /-- It has seen a value that is not the stop, and asks for a change. -/
  | asking
  deriving DecidableEq, Repr

/-- Somebody who observes a stop signal. -/
structure StopObserver where
  /-- The version that it saw last. -/
  seen : Nat
  attention : Attention
  deriving DecidableEq, Repr

namespace StopObserver

/-- The observer at the beginning of a wait; one that it had left half way is given up. -/
def attend (o : StopObserver) : StopObserver := { o with attention := .looking }

/-- The observer without its wait. -/
def giveUp (o : StopObserver) : StopObserver := { o with attention := .idle }

end StopObserver

/-- A stop signal with all who observe it. -/
structure StopChannel where
  /-- Whether the handle is still there. -/
  held : Bool
  /-- Whether the value that is stored is the stop. -/
  given : Bool
  /-- How many values were stored after the first. -/
  version : Nat
  observers : List StopObserver
  deriving DecidableEq, Repr

/-- What can happen to a stop signal. Observers are counted from zero, in the order in which they
came to be. -/
inductive StopAct
  | trigger
  | release
  | subscribe
  | clone (observer : Nat)
  | drop (observer : Nat)
  | attend (observer : Nat)
  | step (observer : Nat)
  | giveUp (observer : Nat)
  deriving DecidableEq, Repr

namespace StopChannel

/-- A channel with its handle and one observer, in which no stop was stored. -/
def fresh : StopChannel := ⟨true, false, 0, [⟨0, .idle⟩]⟩

/-- The channel after a value was sent. -/
def send (c : StopChannel) (stop : Bool) : StopChannel :=
  if c.observers = [] then c else { c with given := stop, version := c.version + 1 }

/-- The handle, if it is there, sends the stop. -/
def trigger (c : StopChannel) : StopChannel := if c.held then c.send true else c

/-- The handle is dropped. -/
def release (c : StopChannel) : StopChannel := { c with held := false }

/-- The handle, if it is there, makes a new observer, to whom the value that is stored is not
new. -/
def subscribe (c : StopChannel) : StopChannel :=
  { c with observers := if c.held then c.observers ++ [⟨c.version, .idle⟩] else c.observers }

/-- An observer, if it is there, is copied, with what it has seen. -/
def cloneObserver (c : StopChannel) (i : Nat) : StopChannel :=
  { c with observers := c.observers ++ (c.observers[i]?.map (·.giveUp)).toList }

/-- An observer is dropped. -/
def dropObserver (c : StopChannel) (i : Nat) : StopChannel :=
  { c with observers := c.observers.eraseIdx i }

/-- An observer changes. -/
def modifyObserver (c : StopChannel) (i : Nat) (f : StopObserver → StopObserver) : StopChannel :=
  { c with observers := c.observers.modify i f }

/-- Whether an observer that is asked reports the stop. -/
def reports (c : StopChannel) (_ : StopObserver) : Bool := c.given

/-- What an observer does next in its wait; nothing if it does not wait or has to be woken. -/
def step? (c : StopChannel) (o : StopObserver) : Option StopObserver :=
  match o.attention with
  | .idle => none
  | .looking => some ⟨c.version, if c.given then .idle else .asking⟩
  | .asking =>
    if o.seen ≠ c.version then some ⟨c.version, .looking⟩
    else if c.held then none
    else some o.giveUp

/-- A bound on the steps that an observer can take without being woken. -/
def work (c : StopChannel) (o : StopObserver) : Nat :=
  match o.attention with
  | .idle => 0
  | .looking => 2
  | .asking => if o.seen = c.version then 1 else 3

/-- Every step of a wait leaves less to be done. -/
theorem work_step? {c : StopChannel} {o o' : StopObserver} (h : c.step? o = some o') :
    c.work o' < c.work o := by
  obtain ⟨seen, _ | _ | _⟩ := o
  · nomatch h
  · obtain rfl := Option.some.inj h
    cases hgiven : c.given <;> simp [work]
  · by_cases hseen : seen = c.version
    · cases hheld : c.held with
      | true => simp [step?, hseen, hheld] at h
      | false =>
        obtain rfl : StopObserver.giveUp _ = o' := by simpa [step?, hseen, hheld] using h
        simp [work, StopObserver.giveUp, hseen]
    · obtain rfl : (⟨c.version, .looking⟩ : StopObserver) = o' := by
        simpa [step?, hseen] using h
      simp [work, hseen]

/-- An observer after all that it can do in its wait without being woken. -/
def settle (c : StopChannel) (o : StopObserver) : StopObserver :=
  match _h : c.step? o with
  | none => o
  | some o' => c.settle o'
termination_by c.work o
decreasing_by exact work_step? _h

/-- The channel after something happened. -/
def act (c : StopChannel) : StopAct → StopChannel
  | .trigger => c.trigger
  | .release => c.release
  | .subscribe => c.subscribe
  | .clone i => c.cloneObserver i
  | .drop i => c.dropObserver i
  | .attend i => c.modifyObserver i (·.attend)
  | .step i => c.modifyObserver i fun o => (c.step? o).getD o
  | .giveUp i => c.modifyObserver i (·.giveUp)

/-- What a loop has to know of the channel. -/
def summary (c : StopChannel) : StopSignal := ⟨c.held, c.given, c.observers.length⟩

end StopChannel

end AlertSync
