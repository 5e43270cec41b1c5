import AlertSync.Proofs.Tick

/-!
# Tasks and what they reach

The store is changed by tasks: the requests of users and the ticks of the state synchronizer. Any
number of them, each run to its end, takes an empty store to the sites that are `Reached`. The store
then always holds contents, and a property of these that is kept by each change a request may decide
on and by each alert that is settled holds of all of them (`reached_induction`).
-/

namespace AlertSync

/-- What changes the store. -/
inductive Task
  | request (q : Request)
  | tick

/-- The program of a task, which tells only whether it succeeded. -/
def Task.program : Task → Program (Except Error Unit)
  | request q => q.operation.outcome
  | tick => Operation.outcome ((fun _ => ()) <$> Synchronizer.syncStates)

/-- A tick asks for the live alerts, lists the stored ones, and settles those that are not
disabled. -/
theorem Task.program_tick : tick.program = Operation.outcome (do
    let live ← .ofProgram (.ask .liveAlerts)
    let alerts ← Registry.alerts none
    .ofProgram (((alerts.filter fun a => !a.isDisabled).forM fun a =>
      Synchronizer.settle (a.reconcile live)) >>= fun _ => .done (.ok ()))) := by
  have hlift (p : Program Unit) : (ExceptT.lift p >>= fun _ => pure () : Operation Unit) =
      .ofProgram (p >>= fun _ => .done (.ok ())) := Operation.outcome_lift_bind p fun _ => pure ()
  simp only [program, Synchronizer.syncStates, map_bind, map_pure, Operation.forM_lift, hlift]

/-- The sites to which tasks lead that run one after the other, under a promise on what calls are
answered. -/
inductive Reached (P : Promise) : Site → Prop
  | empty : Reached P .empty
  | task {s t : Site} (task : Task) (result : Except Error Unit) (h : Reached P s)
      (hrun : task.program.Runs (Site.answering P) s result t) : Reached P t

/-- A task that was run to its end: how it ended, and where it led. -/
structure TaskRun where
  task : Task
  result : Except Error Unit
  after : Site

/-- Whether tasks were run one after the other from a site. -/
def IsHistory (P : Promise) : Site → List TaskRun → Prop
  | _, [] => True
  | s, x :: l => x.task.program.Runs (Site.answering P) s x.result x.after ∧ IsHistory P x.after l

variable {P : Promise} {k : Contents} {w : Finset (String × String)}

/-- What may come of a task that begins when the store holds contents. -/
def Task.Ended (P : Promise) (k : Contents) (w : Finset (String × String)) :
    Task → Except Error Unit → Site → Prop
  | request q, r, t => q.Ended P k w r t
  | tick, _, t => Synchronizer.Ticked P k w t

/-- A task ends as it may. -/
theorem Task.ended_of_runs {task : Task} {r : Except Error Unit} {t : Site}
    (hrun : task.program.Runs (Site.answering P) (k.site w) r t) : task.Ended P k w r t := by
  cases task with
  | request q => exact Program.always_iff.1 q.always_operation r t hrun
  | tick =>
    have htick : Program.Always (Site.answering P) (fun _ t => Synchronizer.Ticked P k w t)
        (program .tick) (k.site w) := by
      show Program.Always _ _ (Operation.outcome (Synchronizer.syncStates >>= fun _ => pure ())) _
      rw [Operation.always_bind]
      apply Synchronizer.always_syncStates.mono
      rintro (e | _) t ht <;> exact ht
    exact Program.always_iff.1 htick r t hrun

/-- What holds of no contents, and is kept by every change that is decided on and every alert that
is settled, holds of all contents that are reached. -/
theorem reached_induction {inv : Contents → Finset (String × String) → Prop}
    (hempty : inv .empty ∅)
    (hrequest : ∀ {k w q d w'}, inv k w → Request.Yields P k w q d w' →
      inv k w' ∧ (d.edit.Admitted k → inv (d.edit.apply k) w'))
    (hsettling : ∀ {live k w k' w'}, inv k w →
      Synchronizer.Settling P live (k, w) (k', w') → inv k' w')
    {s : Site} (h : Reached P s) : ∃ k w, s = k.site w ∧ inv k w := by
  induction h with
  | empty => exact ⟨.empty, ∅, rfl, hempty⟩
  | task task r h hrun ih =>
    obtain ⟨k, w, rfl, hinv⟩ := ih
    have hended := Task.ended_of_runs hrun
    cases task with
    | request q =>
      cases r with
      | ok _ =>
        obtain ⟨d, w', hyields, hadmitted, rfl⟩ := hended
        exact ⟨_, w', rfl, (hrequest hinv hyields).2 hadmitted⟩
      | error e =>
        obtain rfl | ⟨d, w', hyields, rfl⟩ := hended
        · exact ⟨k, w, rfl, hinv⟩
        · exact ⟨k, w', rfl, (hrequest hinv hyields).1⟩
    | tick =>
      obtain rfl | ⟨live, k', w', -, rfl, hsteps⟩ := hended
      · exact ⟨k, w, rfl, hinv⟩
      · exact ⟨k', w', rfl, Synchronizer.inv_of_settling hsettling hsteps hinv⟩

end AlertSync
