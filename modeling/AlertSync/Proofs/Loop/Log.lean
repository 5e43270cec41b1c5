import AlertSync.Proofs.Loop.Steps

/-!
# The log of a run

A log of a run notes, each with its time, which calls of the loop start and return, what became of
each notification, and when the loop was stopped (`Loop.Run`). What a move of the loop adds to it is
said once for each kind of move (`Loop.Moves`, `moves_of_step?`).

A run may be late: time may pass although a call has returned, or although the reload delay is over.
`Run` bounds that by so many milliseconds, and every run is late by at most some number of them
(`leads_iff_exists_run`). How late a tick is taken is not bounded so; in a `PromptRun` a loop that
waits takes each as soon as it is due. A prompt run that is late by nothing is one on a clock that
stands still as long as there is something to do; what `Loop.advance` does is such a run
(`exists_promptRun_advance`).
-/

namespace AlertSync

/-- What is noted of a run. -/
inductive LoopNote
  | started (call : LoopCall)
  /-- A call has returned, with what it ends with if it does not fail. -/
  | returned (call : LoopCall) (result : Option Outcome)
  | notified (topic : Topic) (delivery : Delivery)
  /-- The stop signal was given, or its handle dropped. -/
  | stopped
  deriving DecidableEq, Repr

namespace LoopNote

/-- Whether a call starts or returns. -/
def isCall : LoopNote → Bool
  | started _ | returned .. => true
  | notified .. | stopped => false

/-- How a cycle ends with which that is over that is noted. A sync that asks for a reload is not the
end. -/
def ends? : LoopNote → Option CycleEnd
  | returned .sync (some .done) => some .success
  | returned .sync none => some .failure
  | returned .reload (some _) => some .success
  | returned .reload none => some .reloadFailure
  | returned .sync (some .reload) | started _ | notified .. | stopped => none

theorem ends?_of_isCall {note : LoopNote} (h : note.isCall = false) : note.ends? = none := by
  cases note with
  | started | returned => nomatch h
  | notified | stopped => rfl

end LoopNote

/-- What was noted, and when. -/
structure LogEntry where
  time : Nat
  note : LoopNote
  deriving DecidableEq, Repr

/-- When the call or the delay of a phase is over. -/
def LoopPhase.until? : LoopPhase → Option Nat
  | syncing finish _ | debouncing finish | reloading finish _ => some finish
  | waiting | finished => none

namespace Loop

/-- What is noted of the call that was running, if one was, as soon as the loop moves. -/
def returning (l : Loop) : List LogEntry :=
  match l.phase with
  | .syncing _ result => [⟨l.now, .returned .sync result⟩]
  | .reloading _ result => [⟨l.now, .returned .reload result⟩]
  | .waiting | .debouncing _ | .finished => []

/-- What is noted of the call, if there is one, that runs since the loop has moved. -/
def starting (l : Loop) : List LogEntry :=
  match l.phase with
  | .syncing .. => [⟨l.now, .started .sync⟩]
  | .reloading .. => [⟨l.now, .started .reload⟩]
  | .waiting | .debouncing _ | .finished => []

/-- A step of a run that is late by at most so much, and what is noted of it. -/
inductive Noted (late : Nat) : Loop → List LogEntry → Loop → Prop
  | move {l l' : Loop} (h : l.step? = some l') : Noted late l (l.returning ++ l'.starting) l'
  | elapse (l : Loop) (ms : Nat) (h : ∀ finish ∈ l.phase.until?, l.now + ms ≤ finish + late) :
      Noted late l [] (l.elapse ms)
  | notify (l : Loop) (topic : Topic) (h : l.bus.handles ≠ 0) :
      Noted late l [⟨l.now, .notified topic (l.bus.delivery topic)⟩] (l.notify topic)
  | cloneHandle (l : Loop) : Noted late l [] l.cloneHandle
  | dropHandle (l : Loop) : Noted late l [] l.dropHandle
  | trigger (l : Loop) : Noted late l [⟨l.now, .stopped⟩] l.trigger
  | release (l : Loop) : Noted late l [⟨l.now, .stopped⟩] l.release

/-- A run that is late by at most so much, and its log. -/
inductive Run (late : Nat) (l : Loop) : List LogEntry → Loop → Prop
  | refl : Run late l [] l
  | step {log entries : List LogEntry} {l' l'' : Loop} (h : Run late l log l')
      (hstep : Noted late l' entries l'') : Run late l (log ++ entries) l''

/-- Whether a loop that waits lets no time pass in which its ticker is due. -/
def Prompt (l l' : Loop) : Prop :=
  l.phase = .waiting → ∀ t, l.source = .interval t → l'.now ≤ max l.now t.deadline

/-- A run in which a loop that waits takes each tick as soon as it is due. -/
inductive PromptRun (late : Nat) (l : Loop) : List LogEntry → Loop → Prop
  | refl : PromptRun late l [] l
  | step {log entries : List LogEntry} {l' l'' : Loop} (h : PromptRun late l log l')
      (hstep : Noted late l' entries l'') (hprompt : l'.Prompt l'') :
      PromptRun late l (log ++ entries) l''

variable {late late' : Nat} {l l' l'' : Loop} {log entries more : List LogEntry}

/-- Two runs one after the other are a run. -/
theorem Run.trans (h : l.Run late log l') (h' : l'.Run late more l'') :
    l.Run late (log ++ more) l'' := by
  induction h' with
  | refl =>
    rw [List.append_nil]
    exact h
  | step _ hstep ih =>
    rw [← List.append_assoc]
    exact ih.step hstep

/-- A prompt run is a run. -/
theorem PromptRun.run (h : l.PromptRun late log l') : l.Run late log l' := by
  induction h with
  | refl => exact .refl
  | step _ hstep _ ih => exact ih.step hstep

/-- Two prompt runs one after the other are a prompt run. -/
theorem PromptRun.trans (h : l.PromptRun late log l') (h' : l'.PromptRun late more l'') :
    l.PromptRun late (log ++ more) l'' := by
  induction h' with
  | refl =>
    rw [List.append_nil]
    exact h
  | step _ hstep hprompt ih =>
    rw [← List.append_assoc]
    exact ih.step hstep hprompt

/-- What takes no time is prompt. -/
theorem prompt_of_now (h : l'.now = l.now) : l.Prompt l' :=
  fun _ t _ => h ▸ Nat.le_max_left l.now t.deadline

/-! ## Every run has a log -/

/-- A step that may be late by some time may be so by more. -/
theorem Noted.mono (h : Noted late l entries l') (hle : late ≤ late') :
    Noted late' l entries l' := by
  cases h with
  | move hmove => exact .move hmove
  | elapse ms hlate =>
    exact .elapse l ms fun finish hfinish =>
      Nat.le_trans (hlate finish hfinish) (Nat.add_le_add_left hle finish)
  | notify topic hhandles => exact .notify l topic hhandles
  | cloneHandle => exact .cloneHandle l
  | dropHandle => exact .dropHandle l
  | trigger => exact .trigger l
  | release => exact .release l

/-- A run that may be late by some time may be so by more. -/
theorem Run.mono (h : l.Run late log l') (hle : late ≤ late') : l.Run late' log l' := by
  induction h with
  | refl => exact .refl
  | step _ hstep ih => exact ih.step (hstep.mono hle)

/-- Something is noted of every step, and the step is late by at most some time. -/
theorem exists_noted_of_step (h : Step l l') : ∃ late entries, Noted late l entries l' := by
  cases h with
  | move hmove => exact ⟨0, _, .move hmove⟩
  | elapse ms => exact ⟨l.now + ms, _, .elapse l ms fun finish _ => Nat.le_add_left _ finish⟩
  | notify topic hhandles => exact ⟨0, _, .notify l topic hhandles⟩
  | cloneHandle => exact ⟨0, _, .cloneHandle l⟩
  | dropHandle => exact ⟨0, _, .dropHandle l⟩
  | trigger => exact ⟨0, _, .trigger l⟩
  | release => exact ⟨0, _, .release l⟩

/-- What is noted is noted of a step. -/
theorem step_of_noted (h : Noted late l entries l') : Step l l' := by
  cases h with
  | move hmove => exact .move hmove
  | elapse ms _ => exact .elapse l ms
  | notify topic hhandles => exact .notify l topic hhandles
  | cloneHandle => exact .cloneHandle l
  | dropHandle => exact .dropHandle l
  | trigger => exact .trigger l
  | release => exact .release l

/-- Every run has a log, and is late by at most some time. -/
theorem leads_iff_exists_run : l.Leads l' ↔ ∃ late log, l.Run late log l' := by
  constructor
  · intro hleads
    induction hleads with
    | refl => exact ⟨0, [], .refl⟩
    | tail _ hstep ih =>
      obtain ⟨late, log, hrun⟩ := ih
      obtain ⟨late', entries, hnoted⟩ := exists_noted_of_step hstep
      exact ⟨max late late', log ++ entries,
        (hrun.mono (Nat.le_max_left late late')).step (hnoted.mono (Nat.le_max_right late late'))⟩
  · rintro ⟨late, log, hrun⟩
    induction hrun with
    | refl => exact .refl
    | step _ hstep ih => exact ih.tail (step_of_noted hstep)

/-! ## The runs of the clock -/

/-- A single step is a run. -/
theorem Noted.run (h : Noted late l entries l') : l.Run late entries l' := .step .refl h

/-- To settle is a prompt run, however late one may be. -/
theorem exists_promptRun_settle (late : Nat) (l : Loop) :
    ∃ log, l.PromptRun late log l.settle := by
  fun_induction settle l with
  | case1 l h => exact ⟨[], .refl⟩
  | case2 l l' h ih =>
    obtain ⟨log, hrun⟩ := ih
    exact ⟨_, (PromptRun.refl.step (.move h) (prompt_of_now (now_of_move h).1)).trans hrun⟩

/-- What ends by itself is due when it ends. -/
theorem due?_of_until? {finish : Nat} (h : l.phase.until? = some finish) :
    l.due? = some finish := by
  unfold due?
  cases hp : l.phase with
  | waiting | finished =>
    rw [hp] at h
    nomatch h
  | syncing | debouncing | reloading =>
    rw [hp] at h
    exact h

/-- A loop that can only wait does not wait for what is due. -/
theorem now_lt_of_due? {due : Nat} (h : l.step? = none) (hdue : l.due? = some due) :
    l.now < due := by
  refine Nat.lt_of_not_le fun hle => ?_
  unfold due? at hdue
  unfold step? at h
  cases hp : l.phase with
  | finished =>
    rw [hp] at hdue
    nomatch hdue
  | waiting =>
    cases hs : l.source with
    | signal topic => simp [hp, hs] at hdue
    | interval t =>
      obtain rfl : t.deadline = due := by simpa [hp, hs] using hdue
      cases hstop : l.stop.wakes <;> simp [hp, hstop, wake?, hs, hle] at h
  | syncing finish result | reloading finish result =>
    obtain rfl : finish = due := by simpa [hp] using hdue
    simp [hp, hle] at h
  | debouncing finish =>
    obtain rfl : finish = due := by simpa [hp] using hdue
    cases hstop : l.stop.wakes <;> simp [hp, hle, hstop] at h

/-- A loop that can only wait does not wait for what is over. -/
theorem now_lt_of_step? {finish : Nat} (h : l.step? = none)
    (huntil : l.phase.until? = some finish) : l.now < finish :=
  now_lt_of_due? h (due?_of_until? huntil)

/-- A loop that can only wait is not late at a time up to which nothing is over. -/
theorem noted_now {time : Nat} (h : l.now ≤ time)
    (hend : ∀ finish ∈ l.phase.until?, time ≤ finish) :
    Noted late l [] { l with now := time } := by
  have hnow : l.now + (time - l.now) = time := Nat.add_sub_cancel' h
  have helapse : l.elapse (time - l.now) = { l with now := time } := by rw [elapse, hnow]
  rw [← helapse]
  refine .elapse l _ fun finish hfinish => ?_
  rw [hnow]
  exact Nat.le_add_right_of_le (hend finish hfinish)

/-- To let time pass until nothing is due yet is a prompt run. -/
theorem promptRun_now {time : Nat} (h : l.now ≤ time) (hdue : ∀ due ∈ l.due?, time ≤ due) :
    l.PromptRun late [] { l with now := time } := by
  refine PromptRun.refl.step (noted_now h fun finish hfinish => ?_) fun hphase t hsource => ?_
  · exact hdue finish (due?_of_until? hfinish)
  · have htick : time ≤ t.deadline := hdue t.deadline (by simp [due?, hphase, hsource])
    exact Nat.le_trans htick (Nat.le_max_right _ _)

/-- Until a time every wait ends when it is due: this is a prompt run that is never late. -/
theorem exists_promptRun_runUntil (l : Loop) (time : Nat) (h : l.now ≤ time) :
    ∃ log, l.PromptRun 0 log (l.runUntil time) := by
  fun_induction runUntil l time with
  | case1 l settled due hdue hsoon ih =>
    obtain ⟨_, hsettle⟩ := l.exists_promptRun_settle 0
    have hwait : l.settle.PromptRun 0 [] { l.settle with now := due } :=
      promptRun_now (l.now_settle ▸ Nat.le_of_lt hsoon.1) fun due' hdue' =>
        Nat.le_of_eq (Option.some.inj (hdue.symm.trans hdue'))
    obtain ⟨_, hrest⟩ := ih hsoon.2
    exact ⟨_, (hsettle.trans hwait).trans hrest⟩
  | case2 l settled due hdue hlater =>
    obtain ⟨_, hsettle⟩ := l.exists_promptRun_settle 0
    have hwait : l.settle.PromptRun 0 [] { l.settle with now := time } := by
      refine promptRun_now (l.now_settle ▸ h) fun due' hdue' => ?_
      obtain rfl : due = due' := Option.some.inj (hdue.symm.trans hdue')
      have hnow := now_lt_of_due? l.step?_settle hdue'
      rw [now_settle] at hnow
      exact Nat.le_of_not_le fun hle => hlater ⟨hnow, hle⟩
    obtain ⟨_, hrest⟩ := exists_promptRun_settle 0 { l.settle with now := time }
    exact ⟨_, (hsettle.trans hwait).trans hrest⟩
  | case3 l settled hdue =>
    obtain ⟨_, hsettle⟩ := l.exists_promptRun_settle 0
    have hwait : l.settle.PromptRun 0 [] { l.settle with now := time } :=
      promptRun_now (l.now_settle ▸ h) fun due' hdue' => nomatch hdue.symm.trans hdue'
    obtain ⟨_, hrest⟩ := exists_promptRun_settle 0 { l.settle with now := time }
    exact ⟨_, (hsettle.trans hwait).trans hrest⟩

/-- The loop after some time has come there by a prompt run that is never late. -/
theorem exists_promptRun_advance (l : Loop) (ms : Nat) : ∃ log, l.PromptRun 0 log (l.advance ms) :=
  l.exists_promptRun_runUntil _ (Nat.le_add_right _ _)

/-! ## Times and stops -/

/-- What is noted of a step is so at its time. -/
theorem Noted.time (h : Noted late l entries l') :
    l.now ≤ l'.now ∧ ∀ e ∈ entries, e.time = l.now := by
  cases h with
  | move hmove =>
    have hnow := (now_of_move hmove).1
    refine ⟨Nat.le_of_eq hnow.symm, fun e he => ?_⟩
    obtain hreturned | hstarted := List.mem_append.1 he
    · unfold returning at hreturned
      split at hreturned <;> simp at hreturned <;> rw [hreturned]
    · unfold starting at hstarted
      split at hstarted <;> simp at hstarted <;> rw [hstarted, hnow]
  | elapse ms _ => exact ⟨Nat.le_add_right _ _, nofun⟩
  | cloneHandle | dropHandle => exact ⟨Nat.le_refl _, nofun⟩
  | notify | trigger | release =>
    exact ⟨Nat.le_refl _, fun e he => congrArg _ (List.mem_singleton.1 he)⟩

/-- What is noted of a run is so while it goes on. -/
theorem Run.time (h : l.Run late log l') :
    l.now ≤ l'.now ∧ ∀ e ∈ log, l.now ≤ e.time ∧ e.time ≤ l'.now := by
  induction h with
  | refl => exact ⟨Nat.le_refl _, nofun⟩
  | step _ hstep ih =>
    obtain ⟨hnow, hentries⟩ := hstep.time
    refine ⟨Nat.le_trans ih.1 hnow, fun e he => ?_⟩
    obtain hlog | hnew := List.mem_append.1 he
    · exact ⟨(ih.2 e hlog).1, Nat.le_trans (ih.2 e hlog).2 hnow⟩
    · rw [hentries e hnew]
      exact ⟨ih.1, hnow⟩

/-- Whenever a loop finds itself stopped, the stop was noted. -/
theorem Run.stopped_of_wakes (h : l.Run late log l') (hwakes : l'.stop.wakes = true) :
    l.stop.wakes = true ∨ ∃ u ≤ l'.now, ⟨u, .stopped⟩ ∈ log := by
  induction h with
  | refl => exact .inl hwakes
  | @step log entries l' l'' _ hstep ih =>
    have hbefore (hsame : l''.stop.wakes = l'.stop.wakes) (hnow : l'.now ≤ l''.now) :
        l.stop.wakes = true ∨ ∃ u ≤ l''.now, ⟨u, .stopped⟩ ∈ log ++ entries := by
      obtain hat | ⟨u, hu, hmem⟩ := ih (hsame ▸ hwakes)
      · exact .inl hat
      · exact .inr ⟨u, Nat.le_trans hu hnow, List.mem_append_left _ hmem⟩
    cases hstep with
    | move hmove =>
      obtain ⟨hnow, hstop | rfl⟩ := now_of_move hmove
      · exact hbefore (congrArg _ hstop) (Nat.le_of_eq hnow.symm)
      · exact hbefore rfl (Nat.le_refl _)
    | elapse ms _ => exact hbefore rfl (Nat.le_add_right _ _)
    | notify _ _ | cloneHandle | dropHandle => exact hbefore rfl (Nat.le_refl _)
    | trigger | release => exact .inr ⟨_, Nat.le_refl _, List.mem_append_right _ (.head _)⟩

/-! ## What a move shows -/

/-- The moves of a loop, and what is noted of each. -/
inductive Moves (l : Loop) : List LogEntry → Loop → Prop
  | finishStopped (hphase : l.phase = .waiting) (hstop : l.stop.wakes = true) : Moves l [] l.finish
  /-- Nobody is left who could notify the topic, and nothing waits there. -/
  | finishClosed {topic : Topic} (hphase : l.phase = .waiting) (hsource : l.source = .signal topic)
      (harrival : l.bus.arrival topic = .closed) : Moves l [] l.finish
  | tick {t : Ticker} (hphase : l.phase = .waiting) (hstop : l.stop.wakes = false)
      (hsource : l.source = .interval t) :
      Moves l [⟨l.now, .started .sync⟩]
        { l with source := .interval (t.take l.now) : Loop }.startSync
  | receive {topic : Topic} (hphase : l.phase = .waiting) (hstop : l.stop.wakes = false)
      (hsource : l.source = .signal topic) (harrival : l.bus.arrival topic = .received) :
      Moves l [⟨l.now, .started .sync⟩] { l with bus := l.bus.receive topic : Loop }.startSync
  | endSync {finish : Nat} {result : Option Outcome} {cycle : CycleEnd}
      (hphase : l.phase = .syncing finish result)
      (hend : (LoopNote.returned .sync result).ends? = some cycle) :
      Moves l [⟨l.now, .returned .sync result⟩] (l.endCycle cycle)
  | reloadAtOnce {finish : Nat} (hphase : l.phase = .syncing finish (some .reload))
      (hdelay : l.reloadDelay = 0) :
      Moves l [⟨l.now, .returned .sync (some .reload)⟩, ⟨l.now, .started .reload⟩] l.startReload
  | debounce {finish : Nat} (hphase : l.phase = .syncing finish (some .reload)) :
      Moves l [⟨l.now, .returned .sync (some .reload)⟩]
        { l with phase := .debouncing (l.after l.reloadDelay) }
  /-- The reload is skipped, because the loop was stopped. -/
  | skip {finish : Nat} (hphase : l.phase = .debouncing finish) (hstop : l.stop.wakes = true) :
      Moves l [] { l with phase := .waiting }
  | reload {finish : Nat} (hphase : l.phase = .debouncing finish) (hdue : finish ≤ l.now) :
      Moves l [⟨l.now, .started .reload⟩] l.startReload
  | endReload {finish : Nat} {result : Option Outcome} {cycle : CycleEnd}
      (hphase : l.phase = .reloading finish result)
      (hend : (LoopNote.returned .reload result).ends? = some cycle) :
      Moves l [⟨l.now, .returned .reload result⟩] (l.endCycle cycle)

/-- What is noted of a move is what a move of its kind shows. -/
theorem moves_of_step? (h : l.step? = some l') : l.Moves (l.returning ++ l'.starting) l' := by
  obtain ⟨hp, ⟨hstop, rfl⟩ | ⟨hstop, hwake⟩⟩ | ⟨_, result, hp, -, rfl⟩ |
    ⟨_, hp, ⟨hstop, rfl⟩ | ⟨-, hdue, rfl⟩⟩ | ⟨_, result, hp, -, rfl⟩ := move_cases h
  · rw [returning, hp]
    exact .finishStopped hp hstop
  · rw [returning, hp]
    obtain ⟨t, hs, -, rfl⟩ | ⟨topic, hs, ⟨harrival, rfl⟩ | ⟨harrival, rfl⟩⟩ := wake_cases hwake
    · exact .tick hp hstop hs
    · exact .receive hp hstop hs harrival
    · exact .finishClosed hp hs harrival
  · rw [returning, hp]
    obtain _ | _ | _ := result
    · exact .endSync hp rfl
    · by_cases hdelay : l.reloadDelay = 0
      · rw [show l.endSync (some .reload) = l.startReload from if_pos hdelay]
        exact .reloadAtOnce hp hdelay
      · rw [show l.endSync (some .reload) = _ from if_neg hdelay]
        exact .debounce hp
    · exact .endSync hp rfl
  · rw [returning, hp]
    exact .skip hp hstop
  · rw [returning, hp]
    exact .reload hp hdue
  · rw [returning, hp]
    obtain _ | _ := result
    · exact .endReload hp rfl
    · exact .endReload hp rfl

/-- What is left as it is by whatever happens beside a loop. -/
structure Beside (late : Nat) (l : Loop) (entries : List LogEntry) (l' : Loop) : Prop where
  name : l'.name = l.name
  reloadDelay : l'.reloadDelay = l.reloadDelay
  phase : l'.phase = l.phase
  events : l'.events = l.events
  now : l.now ≤ l'.now
  /-- Time passes only while the loop is not late by more than that. -/
  intime : l'.now = l.now ∨ ∀ finish ∈ l.phase.until?, l'.now ≤ finish + late
  wakes : l.stop.wakes = true → l'.stop.wakes = true
  cycles : ∀ name cycle,
    l'.counters.value (.cycle name cycle) = l.counters.value (.cycle name cycle)
  quiet : ∀ e ∈ entries, e.note.isCall = false

/-- No end of a cycle is counted when a topic is notified. -/
theorem cycles_notify (l : Loop) (topic : Topic) (name : String) (cycle : CycleEnd) :
    (l.notify topic).counters.value (.cycle name cycle) =
      l.counters.value (.cycle name cycle) := by
  unfold notify
  cases l.bus.delivery topic with
  | queued | closed => rfl
  | coalesced => exact Counters.value_count _ _ _

/-- A step is a move of the loop, or happens beside it. -/
theorem Noted.moves_or_beside (h : Noted late l entries l') :
    l.Moves entries l' ∨ l.Beside late entries l' := by
  cases h with
  | move hmove => exact .inl (moves_of_step? hmove)
  | elapse ms hlate =>
    exact .inr ⟨rfl, rfl, rfl, rfl, Nat.le_add_right _ _, .inr hlate, id, fun _ _ => rfl, nofun⟩
  | notify topic _ =>
    refine .inr ⟨rfl, rfl, rfl, rfl, Nat.le_refl _, .inl rfl, id, l.cycles_notify topic, ?_⟩
    intro e he
    rw [List.mem_singleton.1 he]
    rfl
  | cloneHandle | dropHandle =>
    exact .inr ⟨rfl, rfl, rfl, rfl, Nat.le_refl _, .inl rfl, id, fun _ _ => rfl, nofun⟩
  | trigger =>
    refine .inr ⟨rfl, rfl, rfl, rfl, Nat.le_refl _, .inl rfl, ?_, fun _ _ => rfl, ?_⟩
    · exact StopSignal.wakes_trigger
    · intro e he
      rw [List.mem_singleton.1 he]
      rfl
  | release =>
    refine .inr ⟨rfl, rfl, rfl, rfl, Nat.le_refl _, .inl rfl, ?_, fun _ _ => rfl, ?_⟩
    · exact fun _ => Bool.or_true _
    · intro e he
      rw [List.mem_singleton.1 he]
      rfl

end Loop

end AlertSync
