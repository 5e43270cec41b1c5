import AlertSync.Proofs.Loop.Log
import Mathlib.Data.List.Chain

/-!
# The shape of a run

Each call of a loop returns before the next one starts. After a sync that asked for a reload comes
one reload, when the reload delay is over, unless the loop is stopped before; after any other call
comes a sync. What ends a cycle is counted when it returns, and nothing else is (`shaped_of_run`).

The delay is at most the longest time for which one can wait at all (`longestWait`), whatever longer
one the loop is given (`not_shaped_of_run`).

Each part is an invariant of its own, kept by what a move shows (`Moves`) and by what happens beside
the loop (`Beside`). The order of the calls is carried by how the last of them fits what the loop is
doing (`Last`).
-/

namespace AlertSync

/-- The call that returns, and what it ends with. -/
def LoopNote.result? : LoopNote → Option (LoopCall × Option Outcome)
  | returned call result => some (call, result)
  | started _ | notified .. | stopped => none

theorem LoopNote.result?_of_isCall {note : LoopNote} (h : note.isCall = false) :
    note.result? = none := by
  cases note with
  | started | returned => nomatch h
  | notified | stopped => rfl

/-- The call that starts, and when. -/
def LogEntry.start? : LogEntry → Option (Nat × LoopCall)
  | ⟨time, .started call⟩ => some (time, call)
  | ⟨_, .returned ..⟩ | ⟨_, .notified ..⟩ | ⟨_, .stopped⟩ => none

theorem LogEntry.start?_of_isCall {e : LogEntry} (h : e.note.isCall = false) :
    e.start? = none := by
  obtain ⟨time, note⟩ := e
  cases note with
  | started | returned => nomatch h
  | notified | stopped => rfl

/-- The starts and the returns that a log notes. -/
def calls (log : List LogEntry) : List LogEntry := log.filter (·.note.isCall)

/-- The call that runs in a phase, and what it is to end with. -/
def LoopPhase.running : LoopPhase → List (LoopCall × Option Outcome)
  | syncing _ result => [(.sync, result)]
  | reloading _ result => [(.reload, result)]
  | waiting | debouncing _ | finished => []

/-- What may come next to the start or the return of a call. -/
inductive Follows (delay late : Nat) : LogEntry → LogEntry → Prop
  | returned {t u : Nat} {call : LoopCall} {result : Option Outcome} (h : t ≤ u) :
      Follows delay late ⟨t, .started call⟩ ⟨u, .returned call result⟩
  | reload {t u : Nat} (hdelay : t + delay ≤ u) (hlate : u ≤ t + delay + late) :
      Follows delay late ⟨t, .returned .sync (some .reload)⟩ ⟨u, .started .reload⟩
  | sync {t u : Nat} {call : LoopCall} {result : Option Outcome} (h : t ≤ u)
      (hended : (call, result) ≠ (.sync, some .reload)) :
      Follows delay late ⟨t, .returned call result⟩ ⟨u, .started .sync⟩

namespace Loop

/-- The shape of a run with a reload delay, by its log and what it has led to. -/
structure Shaped (l : Loop) (name : String) (delay late : Nat) (log : List LogEntry) : Prop where
  first : ∀ e ∈ (calls log).head?, e.note = .started .sync
  follows : (calls log).IsChain (Follows delay late)
  /-- A reload that was asked for and has not started is not due, or the loop was stopped before it
  was. -/
  pending : ∀ t, (calls log).getLast? = some ⟨t, .returned .sync (some .reload)⟩ →
    l.now ≤ t + delay + late ∨ ∃ u ≤ t + delay + late, ⟨u, .stopped⟩ ∈ log
  cycles : ∀ cycle, l.counters.value (.cycle name cycle) =
    log.countP fun e => e.note.ends? = some cycle
  /-- What starts is what the loop keeps as its events. -/
  starts : log.filterMap LogEntry.start? = l.events.map fun e => (e.time, e.call)
  /-- What returns is what has started, in its order; the last may be running. -/
  results : log.filterMap (·.note.result?) <+: l.events.map fun e => (e.call, e.result)

variable {name : String} {delay late : Nat} {log entries : List LogEntry} {e : LogEntry}
  {l l' : Loop}

/-! ## What stays the same -/

/-- A step leaves the name and the reload delay of a loop. -/
theorem Noted.same (h : Noted late l entries l') :
    l'.name = l.name ∧ l'.reloadDelay = l.reloadDelay := by
  obtain hmove | hbeside := h.moves_or_beside
  · cases hmove <;> exact ⟨rfl, rfl⟩
  · exact ⟨hbeside.name, hbeside.reloadDelay⟩

/-- A run leaves the name and the reload delay of a loop. -/
theorem Run.same (h : l.Run late log l') : l'.name = l.name ∧ l'.reloadDelay = l.reloadDelay := by
  induction h with
  | refl => exact ⟨rfl, rfl⟩
  | step _ hstep ih => exact ⟨hstep.same.1.trans ih.1, hstep.same.2.trans ih.2⟩

/-! ## Cycles -/

/-- What a step counts is the end of a cycle that is noted. -/
theorem Noted.cycles (h : Noted late l entries l') (cycle : CycleEnd) :
    l'.counters.value (.cycle l.name cycle) =
      l.counters.value (.cycle l.name cycle) +
        entries.countP fun e => e.note.ends? = some cycle := by
  obtain hmove | hbeside := h.moves_or_beside
  · cases hmove with
    | finishStopped | finishClosed | skip => rfl
    | tick | receive | reloadAtOnce | debounce | reload => rfl
    | endSync _ hend | endReload _ hend =>
      show (l.counters.count _).value _ = _
      rw [Counters.value_count, List.countP_singleton, hend]
      simp
  · have hnone : (entries.countP fun e => e.note.ends? = some cycle) = 0 := by
      refine List.countP_eq_zero.2 fun e he => ?_
      rw [LoopNote.ends?_of_isCall (hbeside.quiet e he)]
      exact nofun
    rw [hbeside.cycles, hnone, Nat.add_zero]

/-- The cycles of a loop are counted as they end. -/
theorem Run.cycles (h : l.Run late log l') (cycle : CycleEnd) :
    l'.counters.value (.cycle l.name cycle) =
      l.counters.value (.cycle l.name cycle) +
        log.countP fun e => e.note.ends? = some cycle := by
  induction h with
  | refl => rfl
  | step hrun hstep ih =>
    have hcycles := hstep.cycles cycle
    rw [hrun.same.1, ih] at hcycles
    rw [hcycles, List.countP_append, Nat.add_assoc]

/-! ## Events -/

/-- What a loop adds to its events, by a log of how it came from one state to another: what starts;
and what returns is what was running, and what has started since, but for what is running now. -/
def Adds (l : Loop) (log : List LogEntry) (l' : Loop) : Prop :=
  ∃ started : List LoopEvent, l'.events = l.events ++ started ∧
    log.filterMap LogEntry.start? = started.map (fun e => (e.time, e.call)) ∧
    log.filterMap (·.note.result?) ++ l'.phase.running =
      l.phase.running ++ started.map fun e => (e.call, e.result)

/-- What a step notes is what it adds. -/
theorem Noted.adds (h : Noted late l entries l') : l.Adds entries l' := by
  obtain hmove | hbeside := h.moves_or_beside
  · cases hmove with
    | finishStopped hphase | finishClosed hphase | skip hphase
    | debounce hphase | endSync hphase | endReload hphase =>
      exact ⟨[], (List.append_nil _).symm, rfl, by rw [hphase]; rfl⟩
    | tick hphase | receive hphase | reload hphase | reloadAtOnce hphase =>
      exact ⟨[_], rfl, rfl, by rw [hphase]; rfl⟩
  · have hstart : entries.filterMap LogEntry.start? = [] :=
      List.filterMap_eq_nil_iff.2 fun e he => LogEntry.start?_of_isCall (hbeside.quiet e he)
    have hresult : entries.filterMap (·.note.result?) = [] :=
      List.filterMap_eq_nil_iff.2 fun e he => LoopNote.result?_of_isCall (hbeside.quiet e he)
    refine ⟨[], ?_, hstart, ?_⟩
    · rw [hbeside.events, List.append_nil]
    · rw [hresult, hbeside.phase]
      exact (List.append_nil _).symm

/-- What a run notes is what it adds. -/
theorem Run.adds (h : l.Run late log l') : l.Adds log l' := by
  induction h with
  | refl => exact ⟨[], (List.append_nil _).symm, rfl, (List.append_nil _).symm⟩
  | @step log entries l' l'' _ hstep ih =>
    obtain ⟨before, hevents, hstarts, hresults⟩ := ih
    obtain ⟨started, hevents', hstarts', hresults'⟩ := hstep.adds
    refine ⟨before ++ started, ?_, ?_, ?_⟩
    · rw [hevents', hevents, List.append_assoc]
    · rw [List.filterMap_append, hstarts, hstarts', List.map_append]
    · calc (log ++ entries).filterMap (·.note.result?) ++ l''.phase.running
        _ = log.filterMap (·.note.result?) ++
            (entries.filterMap (·.note.result?) ++ l''.phase.running) := by
          rw [List.filterMap_append, List.append_assoc]
        _ = log.filterMap (·.note.result?) ++ l'.phase.running ++
            started.map (fun e => (e.call, e.result)) := by
          rw [hresults', List.append_assoc]
        _ = l.phase.running ++ (before ++ started).map (fun e => (e.call, e.result)) := by
          rw [hresults, List.map_append, List.append_assoc]

/-! ## The order of the calls -/

/-- How the call that was noted last fits what the loop is doing. -/
inductive Last (delay late : Nat) (log : List LogEntry) (l : Loop) : Option LogEntry → Prop
  | none (hphase : l.phase = .waiting ∨ l.phase = .finished) : Last delay late log l none
  | ended {t : Nat} {call : LoopCall} {result : Option Outcome}
      (hphase : l.phase = .waiting ∨ l.phase = .finished) (hnow : t ≤ l.now)
      (hended : (call, result) ≠ (.sync, some .reload)) :
      Last delay late log l (some ⟨t, .returned call result⟩)
  /-- The reload was skipped, because the loop was stopped. -/
  | skipped {t : Nat} (hphase : l.phase = .waiting ∧ l.stop.wakes = true ∨ l.phase = .finished)
      (hstop : ∃ u ≤ t + delay + late, ⟨u, .stopped⟩ ∈ log) :
      Last delay late log l (some ⟨t, .returned .sync (some .reload)⟩)
  | syncing {t finish : Nat} {result : Option Outcome} (hphase : l.phase = .syncing finish result)
      (hnow : t ≤ l.now) : Last delay late log l (some ⟨t, .started .sync⟩)
  | debouncing {t : Nat} (hphase : l.phase = .debouncing (t + delay))
      (hlate : l.now ≤ t + delay + late) :
      Last delay late log l (some ⟨t, .returned .sync (some .reload)⟩)
  | reloading {t finish : Nat} {result : Option Outcome}
      (hphase : l.phase = .reloading finish result) (hnow : t ≤ l.now) :
      Last delay late log l (some ⟨t, .started .reload⟩)

/-- The calls of a log are in order, up to what the loop is doing. -/
structure Ordered (delay late : Nat) (log : List LogEntry) (l : Loop) : Prop where
  first : ∀ e ∈ (calls log).head?, e.note = .started .sync
  follows : (calls log).IsChain (Follows delay late)
  last : Last delay late log l (calls log).getLast?

/-- The call noted last fits after what happens beside the loop. -/
theorem Last.beside {last : Option LogEntry} (h : Last delay late log l last)
    (hbeside : l.Beside late entries l') : Last delay late (log ++ entries) l' last := by
  have hphase := hbeside.phase
  cases h with
  | none hidle => exact .none (hphase ▸ hidle)
  | ended hidle hnow hended => exact .ended (hphase ▸ hidle) (hnow.trans hbeside.now) hended
  | skipped hidle hstop =>
    obtain ⟨u, hu, hmem⟩ := hstop
    refine .skipped ?_ ⟨u, hu, List.mem_append_left _ hmem⟩
    rw [hphase]
    exact hidle.imp_left fun hwaiting => ⟨hwaiting.1, hbeside.wakes hwaiting.2⟩
  | syncing hsyncing hnow => exact .syncing (hphase.trans hsyncing) (hnow.trans hbeside.now)
  | debouncing hdebouncing hlate =>
    refine .debouncing (hphase.trans hdebouncing) ?_
    obtain hsame | hintime := hbeside.intime
    · exact hsame ▸ hlate
    · exact hintime _ (by rw [hdebouncing]; rfl)
  | reloading hreloading hnow => exact .reloading (hphase.trans hreloading) (hnow.trans hbeside.now)

/-- Calls stay in order whatever happens beside the loop. -/
theorem Ordered.beside (h : Ordered delay late log l) (hbeside : l.Beside late entries l') :
    Ordered delay late (log ++ entries) l' := by
  have hnone : calls entries = [] := List.filter_eq_nil_iff.2 fun e he => by
    rw [hbeside.quiet e he]
    exact Bool.false_ne_true
  have hcalls : calls (log ++ entries) = calls log := by
    rw [calls, List.filter_append]
    exact (congrArg _ hnone).trans (List.append_nil _)
  refine ⟨?_, ?_, ?_⟩ <;> rw [hcalls]
  · exact h.first
  · exact h.follows
  · exact h.last.beside hbeside

/-- Calls stay in order when one more follows that fits. -/
theorem Ordered.snoc (h : Ordered delay late log l) (hcall : e.note.isCall = true)
    (hfirst : (calls log).getLast? = none → e.note = .started .sync)
    (hfollows : ∀ e' ∈ (calls log).getLast?, Follows delay late e' e)
    (hlast : Last delay late (log ++ [e]) l' (some e)) :
    Ordered delay late (log ++ [e]) l' := by
  have hcalls : calls (log ++ [e]) = calls log ++ [e] := by
    rw [calls, List.filter_append, List.filter_singleton, hcall]
    rfl
  refine ⟨?_, ?_, ?_⟩ <;> rw [hcalls]
  · cases hlog : calls log with
    | nil =>
      intro e' he'
      obtain rfl := Option.some.inj he'
      exact hfirst (by rw [hlog]; rfl)
    | cons e' es =>
      have := h.first
      rw [hlog] at this
      exact this
  · refine List.isChain_append.2 ⟨h.follows, List.isChain_singleton e, fun e' he' e'' he'' => ?_⟩
    obtain rfl := Option.some.inj he''
    exact hfollows e' he'
  · rw [List.getLast?_concat]
    exact hlast

/-- A sync may start when the loop waits and was not stopped. -/
theorem Ordered.startSync {finish : Nat} {result : Option Outcome} (h : Ordered delay late log l)
    (hphase : l.phase = .waiting) (hstop : l.stop.wakes = false)
    (hphase' : l'.phase = .syncing finish result) (hnow : l'.now = l.now) :
    Ordered delay late (log ++ [⟨l.now, .started .sync⟩]) l' := by
  refine h.snoc rfl (fun _ => rfl) (fun e he => ?_) (.syncing hphase' hnow.ge)
  have hlast := h.last
  rw [Option.mem_def.1 he] at hlast
  cases hlast with
  | ended _ ht hended => exact .sync ht hended
  | skipped hidle =>
    -- A reload is skipped only by a loop that was stopped, and such a loop starts no sync.
    obtain ⟨-, hwakes⟩ | hfinished := hidle
    · exact absurd hwakes (hstop ▸ Bool.false_ne_true)
    · nomatch hphase.symm.trans hfinished
  | syncing hother | debouncing hother | reloading hother => nomatch hphase.symm.trans hother

/-- A call that runs was noted last. -/
theorem Last.of_running {last : Option LogEntry} (h : Last delay late log l last) {call : LoopCall}
    {result : Option Outcome} (hrunning : l.phase.running = [(call, result)]) :
    ∃ t ≤ l.now, last = some ⟨t, .started call⟩ := by
  cases h with
  | none hidle | ended hidle => obtain hp | hp := hidle <;> rw [hp] at hrunning <;> nomatch hrunning
  | skipped hidle => obtain ⟨hp, -⟩ | hp := hidle <;> rw [hp] at hrunning <;> nomatch hrunning
  | debouncing hp =>
    rw [hp] at hrunning
    nomatch hrunning
  | @syncing t _ _ hp hnow | @reloading t _ _ hp hnow =>
    rw [hp] at hrunning
    obtain ⟨rfl, -⟩ := Prod.ext_iff.1 (List.cons.inj hrunning).1
    exact ⟨t, hnow, rfl⟩

/-- While the loop waits for a reload, the sync that asked for it was noted last. -/
theorem Last.of_debouncing {last : Option LogEntry} (h : Last delay late log l last) {finish : Nat}
    (hphase : l.phase = .debouncing finish) :
    ∃ t, last = some ⟨t, .returned .sync (some .reload)⟩ ∧ t + delay = finish ∧
      l.now ≤ t + delay + late := by
  cases h with
  | none hidle | ended hidle => obtain hp | hp := hidle <;> nomatch hphase.symm.trans hp
  | skipped hidle => obtain ⟨hp, -⟩ | hp := hidle <;> nomatch hphase.symm.trans hp
  | syncing hp | reloading hp => nomatch hphase.symm.trans hp
  | debouncing hp hlate => exact ⟨_, rfl, LoopPhase.debouncing.inj (hp.symm.trans hphase), hlate⟩

/-- A call that runs may return. -/
theorem Ordered.returned {call : LoopCall} {result : Option Outcome}
    (h : Ordered delay late log l) (hrunning : l.phase.running = [(call, result)])
    (hlast : Last delay late (log ++ [⟨l.now, .returned call result⟩]) l'
      (some ⟨l.now, .returned call result⟩)) :
    Ordered delay late (log ++ [⟨l.now, .returned call result⟩]) l' := by
  obtain ⟨t, ht, hcall⟩ := h.last.of_running hrunning
  refine h.snoc rfl (fun hnone => nomatch hcall.symm.trans hnone) (fun e he => ?_) hlast
  obtain rfl := Option.some.inj (hcall.symm.trans he)
  exact .returned ht

/-- The wait for a reload begins when its sync returns. -/
theorem Ordered.debounce {finish : Nat} (h : Ordered delay late log l)
    (hphase : l.phase = .syncing finish (some .reload)) :
    Ordered delay late (log ++ [⟨l.now, .returned .sync (some .reload)⟩])
      { l with phase := .debouncing (l.now + delay) } := by
  refine h.returned (by rw [hphase]; rfl) (.debouncing rfl ?_)
  exact (Nat.le_add_right _ delay).trans (Nat.le_add_right _ late)

/-- A reload may start when the delay is over. -/
theorem Ordered.reload {finish : Nat} (h : Ordered delay late log l)
    (hphase : l.phase = .debouncing finish) (hdue : finish ≤ l.now) :
    Ordered delay late (log ++ [⟨l.now, .started .reload⟩]) l.startReload := by
  obtain ⟨t, hcalls, rfl, hlate⟩ := h.last.of_debouncing hphase
  refine h.snoc rfl (fun hnone => nomatch hcalls.symm.trans hnone) (fun e he => ?_)
    (.reloading rfl (Nat.le_refl l.now))
  obtain rfl := Option.some.inj (hcalls.symm.trans he)
  exact .reload hdue hlate

/-- A loop that waits may end. -/
theorem Ordered.finish (h : Ordered delay late log l) (hphase : l.phase = .waiting) :
    Ordered delay late log l.finish := by
  refine ⟨h.first, h.follows, ?_⟩
  have hlast := h.last
  generalize (calls log).getLast? = last at hlast
  cases hlast with
  | none _ => exact .none (.inr rfl)
  | ended _ hnow hended => exact .ended (.inr rfl) hnow hended
  | skipped _ hstop => exact .skipped (.inr rfl) hstop
  | syncing hp | debouncing hp | reloading hp => nomatch hphase.symm.trans hp

/-- The wait for a reload may be given up when the loop was stopped. -/
theorem Ordered.skip {finish : Nat} (h : Ordered delay late log l)
    (hphase : l.phase = .debouncing finish) (hstop : l.stop.wakes = true)
    (hstopped : ∃ u ≤ l.now, ⟨u, .stopped⟩ ∈ log) :
    Ordered delay late log { l with phase := .waiting } := by
  refine ⟨h.first, h.follows, ?_⟩
  obtain ⟨t, hcalls, -, hlate⟩ := h.last.of_debouncing hphase
  obtain ⟨u, hu, hmem⟩ := hstopped
  rw [hcalls]
  exact .skipped (.inl ⟨rfl, hstop⟩) ⟨u, hu.trans hlate, hmem⟩

/-- Calls stay in order when the loop moves. -/
theorem Ordered.move (h : Ordered delay late log l) (hdelay : delay = min l.reloadDelay longestWait)
    (hstopped : l.stop.wakes = true → ∃ u ≤ l.now, ⟨u, .stopped⟩ ∈ log)
    (hmove : l.Moves entries l') : Ordered delay late (log ++ entries) l' := by
  cases hmove with
  | finishStopped hphase | finishClosed hphase =>
    rw [List.append_nil]
    exact h.finish hphase
  | tick hphase hstop | receive hphase hstop => exact h.startSync hphase hstop rfl rfl
  | endSync hphase hend =>
    refine h.returned (by rw [hphase]; rfl) (.ended (.inl rfl) (Nat.le_refl l.now) ?_)
    intro heq
    cases heq
    nomatch hend
  | endReload hphase =>
    exact h.returned (by rw [hphase]; rfl) (.ended (.inl rfl) (Nat.le_refl l.now) nofun)
  | reloadAtOnce hphase hzero =>
    -- The loop does in one move what it would do in two if the delay were over at once.
    obtain rfl : delay = 0 := by rw [hdelay, hzero, Nat.zero_min]
    rw [List.append_cons]
    exact (h.debounce hphase).reload rfl (Nat.le_refl l.now)
  | debounce hphase =>
    rw [after, ← hdelay]
    exact h.debounce hphase
  | skip hphase hstop =>
    rw [List.append_nil]
    exact h.skip hphase hstop (hstopped hstop)
  | reload hphase hdue => exact h.reload hphase hdue

/-- The calls of a run are in order. -/
theorem Run.ordered {source : WakeSource} {reloadDelay : Nat} {syncs reloads : List Behaviour}
    (h : (start name source reloadDelay syncs reloads).Run late log l) :
    Ordered (min reloadDelay longestWait) late log l := by
  induction h with
  | refl => exact ⟨nofun, .nil, .none (.inl rfl)⟩
  | step hrun hstep ih =>
    obtain hmove | hbeside := hstep.moves_or_beside
    · refine ih.move ?_ (fun hwakes => ?_) hmove
      · rw [hrun.same.2]
        rfl
      · exact (hrun.stopped_of_wakes hwakes).resolve_left Bool.false_ne_true
    · exact ih.beside hbeside

/-- The calls of every run come one after the other, each reload the reload delay after its sync
unless the loop is stopped before, and its cycles are counted as they end. -/
theorem shaped_of_run {source : WakeSource} {reloadDelay : Nat} {syncs reloads : List Behaviour}
    (h : (start name source reloadDelay syncs reloads).Run late log l) :
    l.Shaped name (min reloadDelay longestWait) late log := by
  have hordered := h.ordered
  obtain ⟨started, hevents, hstarts, hresults⟩ := h.adds
  have hstarted : l.events = started := hevents
  refine ⟨hordered.first, hordered.follows, fun t ht => ?_, fun cycle => ?_, ?_, ?_⟩
  · have hlast := hordered.last
    rw [ht] at hlast
    cases hlast with
    | ended _ _ hended => exact absurd rfl hended
    | skipped _ hstop => exact .inr hstop
    | debouncing _ hlate => exact .inl hlate
  · have hcycles := h.cycles cycle
    rw [show (start name source reloadDelay syncs reloads).counters.value _ = 0 from rfl,
      Nat.zero_add] at hcycles
    exact hcycles
  · rw [hstarted, hstarts]
  · rw [hstarted]
    exact ⟨_, hresults⟩

/-- A loop that is woken by a change, and reloads five milliseconds after its first sync. -/
def eager : Loop := start "route" (.signal .alertChanged) 5 [⟨some .reload, 2⟩] [⟨none, 3⟩]

/-- What that loop is after its first cycle, whose reload has failed. -/
def eagerAgain : Loop := { eager with
  syncs := []
  reloads := []
  now := 10
  counters := ⟨[.cycle "route" .reloadFailure]⟩
  events := [⟨0, .sync, some .reload⟩, ⟨7, .reload, none⟩] }

/-- What is noted of that cycle. -/
def eagerLog : List LogEntry :=
  [⟨0, .notified .alertChanged .queued⟩, ⟨0, .started .sync⟩, ⟨2, .returned .sync (some .reload)⟩,
    ⟨7, .started .reload⟩, ⟨10, .returned .reload none⟩]

/-- The first cycle of that loop has the shape of every run. -/
theorem shaped_of_run_eager :
    eager.Run 0 eagerLog eagerAgain ∧ eagerAgain.Shaped "route" 5 0 eagerLog := by
  have hrun : eager.Run 0 eagerLog eagerAgain := by
    have hnotified : eager.Run 0 _ _ := .step .refl (.notify eager .alertChanged (by decide))
    have hsyncing := hnotified.step (.move rfl)
    have hreturned := (hsyncing.step (.elapse _ 2 (by decide))).step (.move rfl)
    have hreloading := (hreturned.step (.elapse _ 5 (by decide))).step (.move rfl)
    have hended := (hreloading.step (.elapse _ 3 (by decide))).step (.move rfl)
    exact hended
  exact ⟨hrun, shaped_of_run hrun⟩

/-- A loop with a reload delay for which one cannot wait. -/
def overlong : Loop :=
  start "route" (.signal .alertChanged) (longestWait + 1) [⟨some .reload, 0⟩] []

/-- What is noted of that loop until it reloads. -/
def overlongLog : List LogEntry :=
  [⟨0, .notified .alertChanged .queued⟩, ⟨0, .started .sync⟩, ⟨0, .returned .sync (some .reload)⟩,
    ⟨longestWait, .started .reload⟩]

/-- A reload does not wait for longer than one can: that loop reloads before its delay is over. -/
theorem not_shaped_of_run : ¬ ∀ {name : String} {source : WakeSource} {reloadDelay late : Nat}
    {syncs reloads : List Behaviour} {log : List LogEntry} {l : Loop},
    (start name source reloadDelay syncs reloads).Run late log l →
      l.Shaped name reloadDelay late log := by
  intro hshaped
  have hnotified : overlong.Run 0 _ _ := .step .refl (.notify overlong .alertChanged (by decide))
  have hreturned := (hnotified.step (.move rfl)).step (.move rfl)
  have hreloading := (hreturned.step (.elapse _ longestWait (by decide))).step (.move rfl)
  have hrun : overlong.Run 0 overlongLog _ := hreloading
  have hchain : (calls overlongLog).IsChain (Follows (longestWait + 1) 0) := (hshaped hrun).follows
  have hreload : Follows (longestWait + 1) 0 ⟨0, .returned .sync (some .reload)⟩
      ⟨longestWait, .started .reload⟩ := hchain.tail.rel
  cases hreload with
  | reload hdelay =>
    rw [Nat.zero_add] at hdelay
    exact Nat.not_succ_le_self longestWait hdelay

end Loop

end AlertSync
