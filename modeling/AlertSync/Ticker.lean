/-!
# Tickers

A ticker is due once in every period. A tick that is taken in time leaves the schedule as it is, so
that the ticks do not drift. One that is taken late moves the schedule: the next follows a whole
period after it, so that the ticks that were missed are not made up for in a burst.
-/

namespace AlertSync

/-- A periodic schedule, in milliseconds. -/
structure Ticker where
  period : Nat
  positive : 0 < period
  /-- When the next tick is due. -/
  deadline : Nat
  deriving DecidableEq, Repr

namespace Ticker

/-- How late a tick may be taken without moving the schedule. -/
def tolerance : Nat := 5

/-- A ticker whose first tick is due one period from now; there is none without a period. -/
def start? (now period : Nat) : Option Ticker :=
  if h : 0 < period then some ⟨period, h, now + period⟩ else none

/-- The ticker after its tick was taken. -/
def take (t : Ticker) (now : Nat) : Ticker :=
  { t with deadline :=
      if t.deadline + tolerance < now then now + t.period else t.deadline + t.period }

theorem deadline_lt_take (t : Ticker) (now : Nat) : t.deadline < (t.take now).deadline := by
  have := t.positive
  simp only [take]
  split <;> omega

end Ticker

end AlertSync
