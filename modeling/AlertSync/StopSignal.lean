/-!
# The stop signal

One handle stops everything that observes it. An observer wakes once the signal is given or the
handle is gone, since then nobody could give it any more. The signal is kept for observers that
come later; given while nobody observes, it is lost.
-/

namespace AlertSync

/-- A stop signal. -/
structure StopSignal where
  /-- Whether the handle is still there. -/
  held : Bool
  /-- Whether the signal was given. -/
  triggered : Bool
  /-- How many observers there are. -/
  observers : Nat
  deriving DecidableEq, Repr

namespace StopSignal

/-- A signal not yet given, with its handle and one observer. -/
def fresh : StopSignal := ⟨true, false, 1⟩

/-- The handle gives the signal to those who observe. -/
def trigger (s : StopSignal) : StopSignal :=
  { s with triggered := s.triggered || (s.held && s.observers != 0) }

/-- The handle is dropped. -/
def release (s : StopSignal) : StopSignal := { s with held := false }

/-- The handle makes a new observer. -/
def subscribe (s : StopSignal) : StopSignal :=
  { s with observers := if s.held then s.observers + 1 else s.observers }

/-- An observer, if there is one, is copied. -/
def cloneObserver (s : StopSignal) : StopSignal :=
  { s with observers := if s.observers = 0 then 0 else s.observers + 1 }

/-- An observer is dropped. -/
def dropObserver (s : StopSignal) : StopSignal := { s with observers := s.observers - 1 }

/-- Whether an observer that waits wakes. -/
def wakes (s : StopSignal) : Bool := s.triggered || !s.held

/-- A stop that was given stays so. -/
theorem wakes_trigger {s : StopSignal} (h : s.wakes = true) : s.trigger.wakes = true := by
  show ((s.triggered || _) || !s.held) = true
  obtain htriggered | hreleased := Bool.or_eq_true _ _ ▸ h
  · rw [htriggered, Bool.true_or, Bool.true_or]
  · rw [hreleased, Bool.or_true]

end StopSignal

end AlertSync
