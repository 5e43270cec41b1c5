import AlertSync.Proofs.Loop.Steps

/-!
# The stop has priority

A loop that is stopped, by the signal or because the handle of the signal is dropped, starts no sync
any more, whatever is due or pending at that moment, and a reload only if it follows the sync that
was running without delay. A wait for the reload delay is given up. The loop ends as soon as the
call that was running, with such a reload, has returned (`ceases_of_stopped`).

No stop is missed: as long as a loop has not ended it observes the signal (`observes_of_leads`), so
from then on it finds itself stopped whenever it looks (`Ceasing.stopped`). What it can then have
come to follows by induction over the run (`Ceasing.step`).
-/

namespace AlertSync

/-- When the call returns that runs in a phase, if one does. -/
def LoopPhase.returns? : LoopPhase → Option Nat
  | syncing finish _ | reloading finish _ => some finish
  | waiting | debouncing _ | finished => none

/-- A call that runs and is no sync is a reload. -/
theorem LoopPhase.exists_reloading_of_returns? {phase : LoopPhase} {finish : Nat}
    (h : phase.returns? = some finish) (hno : ∀ finish result, phase ≠ .syncing finish result) :
    ∃ result, phase = .reloading finish result := by
  cases phase with
  | waiting | debouncing _ | finished => nomatch h
  | syncing finish' result => exact absurd rfl (hno finish' result)
  | reloading finish' result =>
    obtain rfl := Option.some.inj h
    exact ⟨result, rfl⟩

namespace Loop

/-- Whether a loop, on its way from one state to another, has started nothing but a reload, without
delay after the sync that was running at first. -/
def ReloadsAtEnd (l l' : Loop) : Prop :=
  ∃ finish e, l.phase = .syncing finish (some .reload) ∧ l.reloadDelay = 0 ∧ e.call = .reload ∧
    finish ≤ e.time ∧ l'.events = l.events ++ [e]

/-- How a loop that was stopped at one moment is at a later one. -/
structure Ceases (l l' : Loop) : Prop where
  /-- It has started no sync, and no other reload. -/
  events : l'.events = l.events ∨ l.ReloadsAtEnd l'
  /-- Whenever it moves it ends, unless a call has not returned: the one that was running when it
  was stopped, or that reload. -/
  ends : l'.settle.phase = .finished ∨
    ∃ finish, l'.settle.phase.returns? = some finish ∧ l'.now < finish ∧
      (l'.settle.phase = l.phase ∨
        (∃ result, l'.settle.phase = .reloading finish result) ∧ l.ReloadsAtEnd l'.settle)

/-- What holds of a loop after it was stopped. -/
structure Ceasing (l l' : Loop) : Prop where
  stopped : l'.stop.wakes = true ∨ l'.phase = .finished
  delay : l'.reloadDelay = l.reloadDelay
  /-- Nothing has happened, or what was running has returned. -/
  progress : l'.events = l.events ∧ (l'.phase = l.phase ∨ l'.phase.returns? = none) ∨
    l.ReloadsAtEnd l' ∧ ∀ finish result, l'.phase ≠ .syncing finish result

variable {l l' : Loop}

/-- A loop that has not ended observes the stop signal. -/
theorem observes_of_leads {name : String} {source : WakeSource} {reloadDelay : Nat}
    {syncs reloads : List Behaviour}
    (h : (start name source reloadDelay syncs reloads).Leads l) :
    l.stop.observers ≠ 0 ∨ l.phase = .finished := by
  induction h with
  | refl => exact .inl Nat.one_ne_zero
  | tail _ hstep ih =>
    cases hstep with
    | move hmove =>
      obtain ⟨-, hstop | rfl⟩ := now_of_move hmove
      · rw [hstop]
        exact .inl (ih.resolve_right (phase_ne_finished_of_move hmove))
      · exact .inr rfl
    | elapse _ | notify _ _ | cloneHandle | dropHandle | trigger | release => exact ih

/-- A loop is stopped by the signal, unless it has ended. -/
theorem ceasing_trigger (hobserves : l.stop.observers ≠ 0 ∨ l.phase = .finished) :
    l.Ceasing l.trigger where
  stopped := by
    obtain hobserves | hended := hobserves
    · left
      show ((l.stop.triggered || (l.stop.held && l.stop.observers != 0)) || !l.stop.held) = true
      have hne : (l.stop.observers != 0) = true := bne_iff_ne.2 hobserves
      rw [hne]
      cases l.stop.held <;> simp
    · exact .inr hended
  delay := rfl
  progress := .inl ⟨rfl, .inl rfl⟩

/-- A loop is stopped when the handle of the signal is dropped. -/
theorem ceasing_release (l : Loop) : l.Ceasing l.release where
  stopped := .inl (Bool.or_true _)
  delay := rfl
  progress := .inl ⟨rfl, .inl rfl⟩

namespace Ceasing

variable {l'' : Loop}

/-- A loop goes on so if all that it has done is that a call has returned, or that it waits or has
ended. -/
theorem of_quiet (h : l.Ceasing l') (hstop : l''.stop.wakes = true ∨ l''.phase = .finished)
    (hdelay : l''.reloadDelay = l'.reloadDelay) (hevents : l''.events = l'.events)
    (hphase : l''.phase.returns? = none) : l.Ceasing l'' where
  stopped := hstop
  delay := hdelay.trans h.delay
  progress := by
    obtain ⟨hsame, -⟩ | ⟨⟨finish, e, hp, hzero, hcall, htime, hreload⟩, -⟩ := h.progress
    · exact .inl ⟨hevents.trans hsame, .inr hphase⟩
    · refine .inr ⟨⟨finish, e, hp, hzero, hcall, htime, hevents.trans hreload⟩, ?_⟩
      intro finish' result hsyncing
      rw [hsyncing] at hphase
      nomatch hphase

/-- A loop goes on so whatever happens beside it. -/
theorem of_same (h : l.Ceasing l') (hstop : l'.stop.wakes = true → l''.stop.wakes = true)
    (hdelay : l''.reloadDelay = l'.reloadDelay) (hevents : l''.events = l'.events)
    (hphase : l''.phase = l'.phase) : l.Ceasing l'' where
  stopped := by
    rw [hphase]
    exact h.stopped.imp_left hstop
  delay := hdelay.trans h.delay
  progress := by
    have hprogress := h.progress
    unfold ReloadsAtEnd at hprogress ⊢
    rw [hphase, hevents]
    exact hprogress

/-- A move of a loop that was stopped. -/
theorem move (h : l.Ceasing l') (hmove : l'.step? = some l'') : l.Ceasing l'' := by
  have hwakes := h.stopped.resolve_right (phase_ne_finished_of_move hmove)
  obtain ⟨-, ⟨-, rfl⟩ | ⟨hnot, -⟩⟩ | ⟨finish, r, hp, hdue, rfl⟩ |
    ⟨_, -, ⟨-, rfl⟩ | ⟨hnot, -⟩⟩ | ⟨finish, r, -, -, rfl⟩ := move_cases hmove
  · exact h.of_quiet (.inr rfl) rfl rfl rfl
  · rw [hwakes] at hnot
    nomatch hnot
  · -- A sync that has returned was running already when the loop was stopped.
    obtain ⟨hevents, hphase⟩ | ⟨-, hno⟩ := h.progress
    · have hrunning : l.phase = .syncing finish r := by
        obtain hsame | hnone := hphase
        · exact hsame.symm.trans hp
        · rw [hp] at hnone
          nomatch hnone
      obtain ⟨-, _, heq⟩ | ⟨rfl, ⟨hzero, heq⟩ | ⟨-, heq⟩⟩ := l'.endSync_cases r <;> rw [heq]
      · exact h.of_quiet (.inl hwakes) rfl rfl rfl
      · have hstarted : l'.startReload.events =
            l.events ++ [⟨l'.now, .reload, (l'.reloads.headD .idle).result⟩] := by
          rw [← hevents]
          rfl
        exact ⟨.inl hwakes, h.delay,
          .inr ⟨⟨finish, _, hrunning, h.delay.symm.trans hzero, rfl, hdue, hstarted⟩, nofun⟩⟩
      · exact h.of_quiet (.inl hwakes) rfl rfl rfl
    · exact absurd hp (hno finish r)
  · exact h.of_quiet (.inl hwakes) rfl rfl rfl
  · rw [hwakes] at hnot
    nomatch hnot
  · obtain ⟨_, heq⟩ := l'.exists_endReload r
    rw [heq]
    exact h.of_quiet (.inl hwakes) rfl rfl rfl

/-- A step of a run after the stop. -/
theorem step (h : l.Ceasing l') (hstep : Step l' l'') : l.Ceasing l'' := by
  cases hstep with
  | move hmove => exact h.move hmove
  | elapse _ | notify _ _ | cloneHandle | dropHandle => exact h.of_same id rfl rfl rfl
  | trigger => exact h.of_same StopSignal.wakes_trigger rfl rfl rfl
  | release => exact h.of_same (fun _ => Bool.or_true _) rfl rfl rfl

/-- A run after the stop. -/
theorem leads (h : l.Ceasing l') (hrun : l'.Leads l'') : l.Ceasing l'' := by
  induction hrun with
  | refl => exact h
  | tail _ hstep ih => exact ih.step hstep

/-- A stopped loop that can only wait has ended, or waits for a call to return. -/
theorem exists_returns?_of_step? (h : l.Ceasing l') (hmove : l'.step? = none) :
    l'.phase = .finished ∨ ∃ finish, l'.phase.returns? = some finish ∧ l'.now < finish := by
  unfold step? at hmove
  split at hmove
  · next hp => exact .inl hp
  · next hp =>
    rw [if_pos (h.stopped.resolve_right (by rw [hp]; exact nofun))] at hmove
    nomatch hmove
  · next finish result hp =>
    split at hmove
    · nomatch hmove
    · next hdue => exact .inr ⟨finish, by rw [hp]; rfl, Nat.lt_of_not_le hdue⟩
  · next finish hp =>
    rw [if_pos (h.stopped.resolve_right (by rw [hp]; exact nofun))] at hmove
    nomatch hmove
  · next finish result hp =>
    split at hmove
    · nomatch hmove
    · next hdue => exact .inr ⟨finish, by rw [hp]; rfl, Nat.lt_of_not_le hdue⟩

end Ceasing

/-- Whenever a loop is stopped, it starts nothing any more but a reload without delay after the sync
that was running, and ends as soon as what was running has returned. -/
theorem ceases_of_stopped {name : String} {source : WakeSource} {reloadDelay : Nat}
    {syncs reloads : List Behaviour} {s : Loop}
    (hrun : (start name source reloadDelay syncs reloads).Leads l)
    (hstop : s = l.trigger ∨ s = l.release) (hafter : s.Leads l') : l.Ceases l' := by
  have hceasing : l.Ceasing s := by
    obtain rfl | rfl := hstop
    · exact ceasing_trigger (observes_of_leads hrun)
    · exact ceasing_release l
  have hend : l.Ceasing l' := hceasing.leads hafter
  have hsettled : l.Ceasing l'.settle := hend.leads l'.leads_settle
  refine ⟨?_, ?_⟩
  · obtain ⟨hevents, -⟩ | ⟨hreload, -⟩ := hend.progress
    · exact .inl hevents
    · exact .inr hreload
  · obtain hended | ⟨finish, hreturns, hnow⟩ := hsettled.exists_returns?_of_step? l'.step?_settle
    · exact .inl hended
    · rw [now_settle] at hnow
      refine .inr ⟨finish, hreturns, hnow, ?_⟩
      obtain ⟨-, hphase | hnone⟩ | ⟨hreload, hno⟩ := hsettled.progress
      · exact .inl hphase
      · rw [hreturns] at hnone
        nomatch hnone
      · exact .inr ⟨LoopPhase.exists_reloading_of_returns? hreturns hno, hreload⟩

/-- A loop that is woken every ten milliseconds, and reloads as soon as its first sync has returned.
-/
def impatient : Loop :=
  start "rule" (.interval ⟨10, by decide, 10⟩) 0 [⟨some .reload, 5⟩] [⟨some .done, 3⟩]

/-- The first sync of that loop has run for two milliseconds. -/
def impatientSyncing : Loop := { impatient with
  source := .interval ⟨10, by decide, 20⟩
  syncs := []
  now := 12
  phase := .syncing 15 (some .reload)
  events := [⟨10, .sync, some .reload⟩] }

/-- The loop was stopped then, and its sync has returned. -/
def impatientReloading : Loop := { impatientSyncing.trigger with
  reloads := []
  now := 15
  phase := .reloading 18 (some .done)
  events := [⟨10, .sync, some .reload⟩, ⟨15, .reload, some .done⟩] }

/-- That loop, stopped during its sync, has reloaded once and starts nothing more. -/
theorem ceases_of_stopped_impatient :
    impatient.Leads impatientSyncing ∧ impatientSyncing.trigger.Leads impatientReloading ∧
      impatientSyncing.Ceases impatientReloading := by
  have hrun : impatient.Leads impatientSyncing := by
    have hsync : (impatient.elapse 10).step? = some { impatientSyncing with now := 10 } := by decide
    exact .head (.elapse _ 10) (.head (.move hsync) (.single (.elapse _ 2)))
  have hafter : impatientSyncing.trigger.Leads impatientReloading :=
    .head (.elapse _ 3) (.single (.move (by decide)))
  exact ⟨hrun, hafter, ceases_of_stopped hrun (.inl rfl) hafter⟩

end Loop

end AlertSync
