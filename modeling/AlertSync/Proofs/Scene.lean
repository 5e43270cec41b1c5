import AlertSync.Proofs.Program.Ground
import AlertSync.Proofs.Task
import AlertSync.Proofs.View

/-!
# A loop among tasks

A `Scene` is a loop that generates the file of a topic, and the tasks that run beside it. One step
of a scene is one call, of whichever of them makes its next: so whatever the loop does falls anywhere
between the calls of tasks, also between those by which a task writes and notifies. The tasks
themselves do not interleave at the store: a task begins when no other has it, and has it until
there is nothing left for it to call but notifications; these it makes whenever it comes to that.

The loop waits for its topic; when that is notified it takes the notification, runs one sync, and
concludes the cycle with the reload that the sync asks for (`Step.rest_stage`). While it waits it may
be stopped.
-/

namespace AlertSync

/-- Whether a call is a notification. -/
def Call.isNotify : Call → Bool
  | notify _ => true
  | _ => false

/-- To notify changes nothing at the site. -/
theorem Call.changesSite_of_isNotify (c : Call) (h : c.isNotify = true) :
    c.changesSite = false := by
  cases c <;> first | rfl | nomatch h

/-- To notify does not write files. -/
theorem Call.writesFile_of_isNotify (c : Call) (h : c.isNotify = true) : c.writesFile = false := by
  cases c <;> first | rfl | nomatch h

/-- What is left of a task, and whether it has written to the store. -/
structure Activity where
  rest : Program (Except Error Unit)
  wrote : Bool

/-- What a loop is doing. -/
inductive Stage
  | waiting
  /-- It has taken a notification, and this is left of the sync. -/
  | syncing (rest : Program (Except Error Outcome))
  /-- The sync has ended, and this is left of the cycle. -/
  | concluding (rest : Program Unit)
  /-- It has been stopped. -/
  | finished

/-- What is left of the cycle that a loop for a topic is in. -/
def Stage.rest (topic : Topic) (delay : Nat) : Stage → Program Unit
  | .syncing p => p >>= topic.synchronizer.conclude delay
  | .concluding p => p
  | .waiting | .finished => .done ()

/-- A loop and the tasks beside it. -/
structure Scene where
  ground : Ground
  /-- The task that has the store. -/
  active : Option Activity
  /-- The tasks that have only notifications to make. -/
  leaving : List Activity
  stage : Stage
  /-- How the latest sync ended, once there was one. -/
  latest : Option (Except Error Outcome)

namespace Scene

/-- A loop that waits, nothing stored, and whatever files there are. -/
def start (files : FileSystem) : Scene where
  ground := ⟨.empty, files, .fresh⟩
  active := none
  leaving := []
  stage := .waiting
  latest := none

/-- The tasks that have begun and not ended. -/
def activities (s : Scene) : List Activity := s.active.toList ++ s.leaving

variable {topic : Topic} {settings : SyncSettings} {delay : Nat}

/-- A step of the loop for a topic, or of a task beside it. -/
inductive Step (topic : Topic) (settings : SyncSettings) (delay : Nat) : Scene → Scene → Prop
  /-- A task begins. -/
  | begin {s : Scene} (task : Task) (h : s.active = none) :
      Step topic settings delay s { s with active := some ⟨task.program, false⟩ }
  /-- The task that has the store makes its next call. -/
  | act {s : Scene} {c : Call} {next : c.Answer → Program (Except Error Unit)} {wrote : Bool}
      {x : c.Answer} {g : Ground} (h : s.active = some ⟨.call c next, wrote⟩)
      (hx : Ground.answering c s.ground x g) :
      Step topic settings delay s
        { s with ground := g, active := some ⟨next x, wrote || c.wrote x⟩ }
  /-- A task that has at most notifications to make leaves the store to others. -/
  | release {s : Scene} {a : Activity} (h : s.active = some a)
      (hrest : a.rest.Calls (·.isNotify = true)) :
      Step topic settings delay s { s with active := none, leaving := a :: s.leaving }
  /-- A task that has left the store makes its next call. -/
  | notify {s : Scene} {l l' : List Activity} {c : Call}
      {next : c.Answer → Program (Except Error Unit)} {wrote : Bool} {x : c.Answer} {g : Ground}
      (h : s.leaving = l ++ ⟨.call c next, wrote⟩ :: l') (hx : Ground.answering c s.ground x g) :
      Step topic settings delay s
        { s with ground := g, leaving := l ++ ⟨next x, wrote || c.wrote x⟩ :: l' }
  /-- A task that has left the store ends. -/
  | depart {s : Scene} {l l' : List Activity} {r : Except Error Unit} {wrote : Bool}
      (h : s.leaving = l ++ ⟨.done r, wrote⟩ :: l') :
      Step topic settings delay s { s with leaving := l ++ l' }
  /-- The loop takes a notification, and the sync begins. -/
  | wake {s : Scene} (h : s.stage = .waiting) (harrival : s.ground.bus.arrival topic = .received) :
      Step topic settings delay s
        { s with
          ground := { s.ground with bus := s.ground.bus.receive topic }
          stage := .syncing (topic.synchronizer.sync settings).outcome }
  /-- The sync makes its next call. -/
  | sync {s : Scene} {c : Call} {next : c.Answer → Program (Except Error Outcome)} {x : c.Answer}
      {g : Ground} (h : s.stage = .syncing (.call c next))
      (hx : Ground.answering c s.ground x g) :
      Step topic settings delay s { s with ground := g, stage := .syncing (next x) }
  /-- The sync ends. -/
  | synced {s : Scene} {r : Except Error Outcome} (h : s.stage = .syncing (.done r)) :
      Step topic settings delay s
        { s with stage := .concluding (topic.synchronizer.conclude delay r), latest := some r }
  /-- What follows the sync makes its next call. -/
  | conclude {s : Scene} {c : Call} {next : c.Answer → Program Unit} {x : c.Answer} {g : Ground}
      (h : s.stage = .concluding (.call c next)) (hx : Ground.answering c s.ground x g) :
      Step topic settings delay s { s with ground := g, stage := .concluding (next x) }
  /-- The cycle ends, and the loop waits again. -/
  | concluded {s : Scene} (h : s.stage = .concluding (.done ())) :
      Step topic settings delay s { s with stage := .waiting }
  /-- The loop is stopped while it waits. -/
  | stop {s : Scene} (h : s.stage = .waiting) :
      Step topic settings delay s
        { s with
          ground := { s.ground with bus := s.ground.bus.unsubscribe topic }
          stage := .finished }

/-- A loop does nothing but run cycles: a step leaves what is left of its cycle as it is, makes the
next call of that, or takes a notification and begins a cycle. -/
theorem Step.rest_stage {s t : Scene} (h : Step topic settings delay s t) :
    t.stage.rest topic delay = s.stage.rest topic delay ∨
      (∃ c next x, s.stage.rest topic delay = .call c next ∧
        Ground.answering c s.ground x t.ground ∧ t.stage.rest topic delay = next x) ∨
      s.stage = .waiting ∧ s.ground.bus.arrival topic = .received ∧
        t.stage.rest topic delay = topic.synchronizer.cycle settings delay := by
  cases h with
  | begin _ _ | act _ _ | release _ _ | notify _ _ | depart _ => exact .inl rfl
  | wake h harrival => exact .inr (.inr ⟨h, harrival, rfl⟩)
  | sync h hx =>
    rw [h]
    exact .inr (.inl ⟨_, _, _, rfl, hx, rfl⟩)
  | conclude h hx =>
    rw [h]
    exact .inr (.inl ⟨_, _, _, rfl, hx, rfl⟩)
  | synced h | concluded h | stop h =>
    rw [h]
    exact .inl rfl

/-- The scenes that steps lead to. -/
inductive Reachable (topic : Topic) (settings : SyncSettings) (delay : Nat) : Scene → Prop
  | start (files : FileSystem) : Reachable topic settings delay (start files)
  | step {s t : Scene} (h : Reachable topic settings delay s)
      (hstep : Step topic settings delay s t) : Reachable topic settings delay t

/-! ## Undisturbed runs -/

/-- The task that has the store may make its calls one after the other. -/
theorem Reachable.act_runs {s : Scene} {p : Program (Except Error Unit)} {wrote : Bool}
    {r : Except Error Unit} {g : Ground} (h : Reachable topic settings delay s)
    (hactive : s.active = some ⟨p, wrote⟩) (hrun : p.Runs Ground.answering s.ground r g) :
    ∃ wrote', Reachable topic settings delay
      { s with ground := g, active := some ⟨.done r, wrote'⟩ } := by
  induction p generalizing s wrote with
  | done a =>
    obtain ⟨rfl, rfl⟩ := hrun
    refine ⟨wrote, ?_⟩
    rw [← hactive]
    exact h
  | call c next ih =>
    -- The first call is a step, and the rest is a run from where that leads.
    obtain ⟨x, g', hx, hrest⟩ := hrun
    have hnext := h.step (.act hactive hx)
    have hend := ih x hnext rfl hrest
    exact hend

/-- A task may run from its beginning to its end. -/
theorem Reachable.task_runs {s : Scene} {task : Task} {r : Except Error Unit} {g : Ground}
    (h : Reachable topic settings delay s) (hfree : s.active = none)
    (hrun : task.program.Runs Ground.answering s.ground r g) :
    Reachable topic settings delay { s with ground := g } := by
  obtain ⟨wrote, hdone⟩ := (h.step (.begin task hfree)).act_runs rfl hrun
  have hleft := (hdone.step (.release rfl trivial)).step (.depart (l := []) rfl)
  rw [← hfree] at hleft
  exact hleft

/-- The loop may make the calls of a sync one after the other. -/
theorem Reachable.sync_runs {s : Scene} {p : Program (Except Error Outcome)}
    {r : Except Error Outcome} {g : Ground} (h : Reachable topic settings delay s)
    (hstage : s.stage = .syncing p) (hrun : p.Runs Ground.answering s.ground r g) :
    Reachable topic settings delay { s with ground := g, stage := .syncing (.done r) } := by
  induction p generalizing s with
  | done a =>
    obtain ⟨rfl, rfl⟩ := hrun
    rw [← hstage]
    exact h
  | call c next ih =>
    obtain ⟨x, g', hx, hrest⟩ := hrun
    have hnext := h.step (.sync hstage hx)
    have hend := ih x hnext rfl hrest
    exact hend

/-- The loop may make the calls that follow a sync one after the other. -/
theorem Reachable.conclude_runs {s : Scene} {p : Program Unit} {g : Ground}
    (h : Reachable topic settings delay s) (hstage : s.stage = .concluding p)
    (hrun : p.Runs Ground.answering s.ground () g) :
    Reachable topic settings delay { s with ground := g, stage := .waiting } := by
  induction p generalizing s with
  | done a =>
    obtain ⟨-, rfl⟩ := hrun
    exact h.step (.concluded hstage)
  | call c next ih =>
    obtain ⟨x, g', hx, hrest⟩ := hrun
    have hnext := h.step (.conclude hstage hx)
    have hend := ih x hnext rfl hrest
    exact hend

/-- The loop may run a cycle from its beginning to its end. -/
theorem Reachable.cycle_runs {s : Scene} {r : Except Error Outcome} {g g' : Ground}
    (h : Reachable topic settings delay s) (hstage : s.stage = .waiting)
    (harrival : s.ground.bus.arrival topic = .received)
    (hsync : (topic.synchronizer.sync settings).outcome.Runs Ground.answering
      { s.ground with bus := s.ground.bus.receive topic } r g)
    (hconclude : (topic.synchronizer.conclude delay r).Runs Ground.answering g () g') :
    Reachable topic settings delay { s with ground := g', stage := .waiting, latest := some r } :=
  (((h.step (.wake hstage harrival)).sync_runs rfl hsync).step (.synced rfl)).conclude_runs rfl
    hconclude

end Scene

end AlertSync
