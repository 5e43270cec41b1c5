import AlertSync.Proofs.Loop.Log

/-!
# Notifications wake a loop

A loop that is woken by a topic starts as many syncs as notifications were queued there, but for one
that may still wait (`Balanced`). So none is lost and none is made up: after every notification that
was queued or coalesced comes a sync, or it still waits, or the loop was stopped; and one that waits
when nobody is left to notify is served before the loop ends (`serves_of_run`).

What is notified on another topic starts nothing: without it the run is the same (`deaf`).
-/

namespace AlertSync

/-- Whether a topic is notified. -/
def LoopNote.isFor (topic : Topic) : LoopNote → Bool
  | notified topic' _ => topic' = topic
  | started _ | returned .. | stopped => false

/-- How many syncs start. -/
def syncsStarted (log : List LogEntry) : Nat := log.countP fun e => e.note = .started .sync

/-- How many notifications of a topic are queued. -/
def queuedFor (topic : Topic) (log : List LogEntry) : Nat :=
  log.countP fun e => e.note = .notified topic .queued

/-- Whether no stop is noted. -/
def Unstopped (log : List LogEntry) : Prop := ∀ e ∈ log, e.note ≠ .stopped

theorem syncsStarted_append (log more : List LogEntry) :
    syncsStarted (log ++ more) = syncsStarted log + syncsStarted more := List.countP_append

theorem queuedFor_append (topic : Topic) (log more : List LogEntry) :
    queuedFor topic (log ++ more) = queuedFor topic log + queuedFor topic more :=
  List.countP_append

/-- Who looks at a topic takes what waits in its slot. -/
theorem Bus.slot_receive (b : Bus) (topic : Topic) :
    (b.receive topic).slot topic = (b.slot topic).take :=
  (slot_modify _ _ _ _).trans (if_pos rfl)

/-- Who finds a notification finds the slot full. -/
theorem Bus.full_of_received {b : Bus} {topic : Topic} (h : b.arrival topic = .received) :
    (b.slot topic).full = true := by
  unfold arrival at h
  split at h
  · assumption
  · split at h <;> nomatch h

/-- Who finds a topic closed finds the slot empty, and no handle is left. -/
theorem Bus.empty_of_closed {b : Bus} {topic : Topic} (h : b.arrival topic = .closed) :
    (b.slot topic).full = false ∧ b.handles = 0 := by
  unfold arrival at h
  split at h
  · nomatch h
  · next hempty =>
    split at h
    · next hhandles => exact ⟨Bool.eq_false_iff.2 hempty, hhandles⟩
    · nomatch h

/-- The slots of different topics change apart from each other. -/
theorem Bus.modify_comm (b : Bus) {t u : Topic} (h : t ≠ u) (f g : Slot → Slot) :
    (b.modify t f).modify u g = (b.modify u g).modify t f := by
  cases t <;> cases u <;> first | rfl | exact absurd rfl h

/-- What waits on a topic does not depend on the slot of another. -/
theorem Bus.arrival_modify (b : Bus) {t u : Topic} (h : u ≠ t) (f : Slot → Slot) :
    (b.modify t f).arrival u = b.arrival u := by
  rw [arrival, slot_modify, if_neg h, handles_modify]
  rfl

/-- The counters as if one event had never been counted. -/
def Counters.without (cs : Counters) (c : Counter) : Counters := ⟨cs.events.filter (· ≠ c)⟩

theorem Counters.without_count_self (cs : Counters) (c : Counter) :
    (cs.count c).without c = cs.without c :=
  congrArg mk (List.filter_cons_of_neg (by simp))

theorem Counters.without_count_of_ne (cs : Counters) {c d : Counter} (h : d ≠ c) :
    (cs.count d).without c = (cs.without c).count d :=
  congrArg mk (List.filter_cons_of_pos (decide_eq_true h))

namespace Loop

variable {topic other : Topic} {late : Nat} {log entries more : List LogEntry} {l l' : Loop}

/-! ## What wakes a loop -/

/-- A move leaves what wakes a loop, but for the ticker. -/
theorem Moves.source (h : l.Moves entries l') :
    l'.source = l.source ∨ ∃ t t', l.source = .interval t ∧ l'.source = .interval t' := by
  cases h with
  | tick _ _ hsource => exact .inr ⟨_, _, hsource, rfl⟩
  | finishStopped | finishClosed | receive | endSync | reloadAtOnce | debounce | skip | reload
  | endReload => exact .inl rfl

/-- A step leaves the topic that wakes a loop. -/
theorem Noted.source (h : Noted late l entries l') (hsource : l.source = .signal topic) :
    l'.source = .signal topic := by
  cases h with
  | move hmove =>
    obtain hsame | ⟨_, _, hinterval, -⟩ := (moves_of_step? hmove).source
    · exact hsame.trans hsource
    · nomatch hsource.symm.trans hinterval
  | elapse | notify | cloneHandle | dropHandle | trigger | release => exact hsource

/-- A run leaves the topic that wakes a loop. -/
theorem Run.source (h : l.Run late log l') (hsource : l.source = .signal topic) :
    l'.source = .signal topic := by
  induction h with
  | refl => exact hsource
  | step _ hstep ih => exact hstep.source ih

/-! ## Every sync has its notification -/

/-- A loop that ends drops no handle. -/
theorem handles_finish (l : Loop) : l.finish.bus.handles = l.bus.handles := by
  unfold finish
  cases l.source with
  | interval => rfl
  | signal topic => exact Bus.handles_modify _ _ _

/-- What a loop that is woken by a topic has started and what was queued for it balance. -/
structure Balanced (topic : Topic) (log : List LogEntry) (l : Loop) : Prop where
  running (h : l.phase ≠ .finished) : (l.bus.slot topic).subscribed = true ∧
    syncsStarted log + (l.bus.slot topic).full.toNat = queuedFor topic log
  /-- A loop that was not stopped ends only when nobody is left who could notify. -/
  finished (h : l.phase = .finished) : (∃ u, ⟨u, .stopped⟩ ∈ log) ∨
    l.bus.handles = 0 ∧ syncsStarted log = queuedFor topic log

/-- The balance is kept by whatever starts no sync and queues nothing. -/
theorem Balanced.same (h : Balanced topic log l)
    (hphase : l'.phase = .finished ↔ l.phase = .finished)
    (hslot : l'.bus.slot topic = l.bus.slot topic)
    (hhandles : l.bus.handles = 0 → l'.bus.handles = 0) (hsyncs : syncsStarted entries = 0)
    (hqueued : queuedFor topic entries = 0) : Balanced topic (log ++ entries) l' := by
  refine ⟨fun hrunning => ?_, fun hfinished => ?_⟩ <;>
    rw [syncsStarted_append, queuedFor_append, hsyncs, hqueued, Nat.add_zero, Nat.add_zero]
  · rw [hslot]
    exact h.running (mt hphase.2 hrunning)
  · obtain ⟨u, hmem⟩ | ⟨hnone, hbalance⟩ := h.finished (hphase.1 hfinished)
    · exact .inl ⟨u, List.mem_append_left _ hmem⟩
    · exact .inr ⟨hhandles hnone, hbalance⟩

/-- The balance is kept when the loop moves. -/
theorem Balanced.move (h : Balanced topic log l) (hsource : l.source = .signal topic)
    (hstopped : l.stop.wakes = true → ∃ u, ⟨u, .stopped⟩ ∈ log) (hmove : l.Moves entries l') :
    Balanced topic (log ++ entries) l' := by
  cases hmove with
  | finishStopped _ hstop =>
    rw [List.append_nil]
    exact ⟨fun hrunning => absurd rfl hrunning, fun _ => .inl (hstopped hstop)⟩
  | finishClosed hphase hsource' harrival =>
    obtain rfl := WakeSource.signal.inj (hsource.symm.trans hsource')
    obtain ⟨hempty, hhandles⟩ := Bus.empty_of_closed harrival
    have hbalance := (h.running (by rw [hphase]; exact nofun)).2
    rw [List.append_nil]
    refine ⟨fun hrunning => absurd rfl hrunning, fun _ => .inr ⟨?_, ?_⟩⟩
    · exact l.handles_finish.trans hhandles
    · rw [hempty] at hbalance
      exact hbalance
  | tick _ _ hsource' => nomatch hsource.symm.trans hsource'
  | receive hphase _ hsource' harrival =>
    obtain rfl := WakeSource.signal.inj (hsource.symm.trans hsource')
    obtain ⟨hsubscribed, hbalance⟩ := h.running (by rw [hphase]; exact nofun)
    refine ⟨fun _ => ?_, nofun⟩
    show ((l.bus.receive topic).slot topic).subscribed = true ∧
      syncsStarted (log ++ [_]) + ((l.bus.receive topic).slot topic).full.toNat = _
    rw [Bus.slot_receive, syncsStarted_append, queuedFor_append]
    rw [Bus.full_of_received harrival] at hbalance
    exact ⟨hsubscribed, hbalance⟩
  | endSync hphase | reloadAtOnce hphase | debounce hphase | skip hphase | reload hphase
  | endReload hphase =>
    exact h.same (by rw [hphase]; exact ⟨nofun, nofun⟩) rfl id rfl rfl

/-- The balance is kept when a topic is notified. -/
theorem Balanced.notify {topic' : Topic} (h : Balanced topic log l) (hhandles : l.bus.handles ≠ 0) :
    Balanced topic (log ++ [⟨l.now, .notified topic' (l.bus.delivery topic')⟩])
      (l.notify topic') := by
  have hslot : (l.notify topic').bus.slot topic =
      if topic = topic' then (l.bus.slot topic).notify else l.bus.slot topic :=
    Bus.slot_modify _ _ _ _
  by_cases hended : l.phase = .finished
  · -- Whoever can still notify has a handle, so the loop was stopped.
    obtain ⟨u, hmem⟩ := (h.finished hended).resolve_right fun hnone => hhandles hnone.1
    exact ⟨fun hrunning => absurd hended hrunning,
      fun _ => .inl ⟨u, List.mem_append_left _ hmem⟩⟩
  · obtain ⟨hsubscribed, hbalance⟩ := h.running hended
    refine ⟨fun _ => ?_, fun hfinished => absurd hfinished hended⟩
    rw [hslot, syncsStarted_append, queuedFor_append]
    by_cases htopic : topic = topic'
    · subst htopic
      have hdelivery : l.bus.delivery topic =
          if (l.bus.slot topic).full then .coalesced else .queued := by
        rw [Bus.delivery, Slot.delivery, hsubscribed]
        rfl
      rw [if_pos rfl, hdelivery, Slot.notify, hsubscribed]
      refine ⟨rfl, ?_⟩
      cases hfull : (l.bus.slot topic).full <;>
        · rw [hfull] at hbalance
          rw [← hbalance]
          simp [queuedFor, syncsStarted]
    · have hnone : queuedFor topic [⟨l.now, .notified topic' (l.bus.delivery topic')⟩] = 0 := by
        simp [queuedFor, Ne.symm htopic]
      rw [if_neg htopic, hnone]
      exact ⟨hsubscribed, hbalance⟩

/-- The balance is kept by a step. -/
theorem Balanced.step (h : Balanced topic log l) (hsource : l.source = .signal topic)
    (hstopped : l.stop.wakes = true → ∃ u, ⟨u, .stopped⟩ ∈ log) (hstep : Noted late l entries l') :
    Balanced topic (log ++ entries) l' := by
  cases hstep with
  | move hmove => exact h.move hsource hstopped (moves_of_step? hmove)
  | elapse | trigger | release => exact h.same Iff.rfl rfl id rfl rfl
  | notify topic' hhandles => exact h.notify hhandles
  | cloneHandle => exact h.same Iff.rfl (by cases topic <;> rfl) (fun hnone => if_pos hnone) rfl rfl
  | dropHandle =>
    refine h.same Iff.rfl (by cases topic <;> rfl) (fun hnone => ?_) rfl rfl
    show l.bus.handles - 1 = 0
    rw [hnone]

section

variable {name : String} {reloadDelay : Nat} {syncs reloads : List Behaviour}

/-- A loop that starts was not stopped: whenever it finds itself so, the stop was noted. -/
theorem Run.exists_stopped {source : WakeSource}
    (h : (start name source reloadDelay syncs reloads).Run late log l)
    (hwakes : l.stop.wakes = true) : ∃ u, ⟨u, .stopped⟩ ∈ log := by
  obtain ⟨u, -, hmem⟩ := (h.stopped_of_wakes hwakes).resolve_left Bool.false_ne_true
  exact ⟨u, hmem⟩

/-- The balance is kept by every run. -/
theorem Run.balanced (h : (start name (.signal topic) reloadDelay syncs reloads).Run late log l) :
    Balanced topic log l := by
  induction h with
  | refl => exact ⟨fun _ => by cases topic <;> exact ⟨rfl, rfl⟩, nofun⟩
  | step hrun hstep ih => exact ih.step (hrun.source rfl) hrun.exists_stopped hstep

end

/-! ## No notification is lost -/

/-- A loop that is stopped stays so. -/
theorem Noted.wakes (h : Noted late l entries l') (hwakes : l.stop.wakes = true) :
    l'.stop.wakes = true := by
  cases h with
  | move hmove =>
    obtain ⟨-, hstop | rfl⟩ := now_of_move hmove
    · rw [hstop]
      exact hwakes
    · exact hwakes
  | elapse | notify | cloneHandle | dropHandle => exact hwakes
  | trigger => exact StopSignal.wakes_trigger hwakes
  | release => exact Bool.or_true _

/-- A notification that waits goes on to do so, unless a sync starts or the loop was stopped. -/
theorem Noted.heard (h : Noted late l entries l') (hsource : l.source = .signal topic)
    (hfull : (l.bus.slot topic).full = true) :
    (∃ u, ⟨u, .started .sync⟩ ∈ entries) ∨ (l'.bus.slot topic).full = true ∨
      l'.stop.wakes = true := by
  cases h with
  | move hmove =>
    have hmoves := moves_of_step? hmove
    generalize l.returning ++ l'.starting = entries at hmoves
    cases hmoves with
    | finishStopped _ hstop => exact .inr (.inr hstop)
    | finishClosed _ hsource' harrival =>
      obtain rfl := WakeSource.signal.inj (hsource.symm.trans hsource')
      exact absurd hfull (Bool.eq_false_iff.1 (Bus.empty_of_closed harrival).1)
    | tick _ _ hsource' => nomatch hsource.symm.trans hsource'
    | receive => exact .inl ⟨_, .head _⟩
    | endSync | reloadAtOnce | debounce | skip | reload | endReload => exact .inr (.inl hfull)
  | elapse | trigger | release => exact .inr (.inl hfull)
  | notify topic' =>
    right; left
    show ((l.bus.notify topic').slot topic).full = true
    rw [Bus.notify, Bus.slot_modify]
    split
    · rw [Slot.notify, hfull, Bool.true_or]
    · exact hfull
  | cloneHandle | dropHandle => exact .inr (.inl (by cases topic <;> exact hfull))

/-- A notification that waits does so until a sync starts, unless the loop is stopped. -/
theorem Run.heard (h : l.Run late more l') (hsource : l.source = .signal topic)
    (hfull : (l.bus.slot topic).full = true) :
    (∃ u, ⟨u, .started .sync⟩ ∈ more) ∨ (l'.bus.slot topic).full = true ∨
      l'.stop.wakes = true := by
  induction h with
  | refl => exact .inr (.inl hfull)
  | step hrun hstep ih =>
    obtain ⟨u, hmem⟩ | hwaits | hwakes := ih
    · exact .inl ⟨u, List.mem_append_left _ hmem⟩
    · obtain ⟨u, hmem⟩ | hlater := hstep.heard (hrun.source hsource) hwaits
      · exact .inl ⟨u, List.mem_append_right _ hmem⟩
      · exact .inr hlater
    · exact .inr (.inr (hstep.wakes hwakes))

/-- A notification that was not closed waits. -/
theorem full_notify (h : l.bus.delivery topic ≠ .closed) :
    ((l.notify topic).bus.slot topic).full = true := by
  show ((l.bus.notify topic).slot topic).full = true
  rw [Bus.notify, Bus.slot_modify, if_pos rfl, Slot.notify]
  cases hsubscribed : (l.bus.slot topic).subscribed with
  | true => exact Bool.or_true _
  | false =>
    refine absurd ?_ h
    rw [Bus.delivery, Slot.delivery, hsubscribed]
    rfl

/-! ## When nobody is left who could notify -/

/-- Without a handle nothing is notified, and none comes to be. -/
theorem Noted.handles (h : Noted late l entries l') (hnone : l.bus.handles = 0) (topic : Topic) :
    l'.bus.handles = 0 ∧ queuedFor topic entries = 0 := by
  cases h with
  | move hmove =>
    have hmoves := moves_of_step? hmove
    generalize l.returning ++ l'.starting = entries at hmoves
    cases hmoves with
    | finishStopped | finishClosed => exact ⟨l.handles_finish.trans hnone, rfl⟩
    | receive => exact ⟨(Bus.handles_modify _ _ _).trans hnone, rfl⟩
    | tick | endSync | reloadAtOnce | debounce | skip | reload | endReload => exact ⟨hnone, rfl⟩
  | elapse | trigger | release => exact ⟨hnone, rfl⟩
  | notify _ hhandles => exact absurd hnone hhandles
  | cloneHandle => exact ⟨if_pos hnone, rfl⟩
  | dropHandle => exact ⟨congrArg (· - 1) hnone, rfl⟩

/-- Without a handle nothing is notified any more. -/
theorem Run.handles (h : l.Run late more l') (hnone : l.bus.handles = 0) (topic : Topic) :
    l'.bus.handles = 0 ∧ queuedFor topic more = 0 := by
  induction h with
  | refl => exact ⟨hnone, rfl⟩
  | step _ hstep ih =>
    obtain ⟨hnone', hqueued⟩ := ih
    obtain ⟨hnone'', hqueued'⟩ := hstep.handles hnone' topic
    refine ⟨hnone'', ?_⟩
    rw [queuedFor_append, hqueued, hqueued']

/-- Nothing but calls is noted of a move. -/
theorem Moves.isCall (h : l.Moves entries l') : ∀ e ∈ entries, e.note.isCall = true := by
  cases h <;> simp [LoopNote.isCall]

/-- A loop that nobody is left to notify does not wait for that. -/
theorem exists_until?_of_step? (h : l.step? = none) (hended : l.phase ≠ .finished)
    (hsource : l.source = .signal topic) (hnone : l.bus.handles = 0) :
    ∃ finish, l.phase.until? = some finish := by
  cases hp : l.phase with
  | finished => exact absurd hp hended
  | syncing finish | debouncing finish | reloading finish => exact ⟨finish, rfl⟩
  | waiting =>
    cases hstop : l.stop.wakes <;> cases hfull : (l.bus.slot topic).full <;>
      simp [step?, wake?, Bus.arrival, hp, hstop, hsource, hfull, hnone] at h

/-- A loop that nobody is left to notify moves when its wait is over. -/
theorem exists_move (hended : l.phase ≠ .finished) (hsource : l.source = .signal topic)
    (hnone : l.bus.handles = 0) :
    ∃ time l', l.Run 0 [] { l with now := time } ∧
      Loop.step? { l with now := time } = some l' := by
  cases hmove : l.step? with
  | some l' => exact ⟨l.now, l', .refl, hmove⟩
  | none =>
    obtain ⟨finish, huntil⟩ := exists_until?_of_step? hmove hended hsource hnone
    have hwait : Noted 0 l [] { l with now := finish } :=
      noted_now (Nat.le_of_lt (now_lt_of_step? hmove huntil)) fun finish' hfinish' =>
        Nat.le_of_eq (Option.some.inj (huntil.symm.trans hfinish'))
    cases hmove' : Loop.step? { l with now := finish } with
    | some l' => exact ⟨finish, l', hwait.run, hmove'⟩
    | none => exact absurd (now_lt_of_step? hmove' huntil) (Nat.lt_irrefl finish)

/-- What a loop that is woken by a topic can do at a moment does not depend on the time. -/
theorem work_now (hsource : l.source = .signal topic) (time : Nat) :
    Loop.work { l with now := time } = l.work := by
  unfold work pending
  rw [hsource]

/-- A loop that nobody is left to notify comes to its end, without being stopped. -/
theorem exists_run_finished (l : Loop) (hsource : l.source = .signal topic)
    (hnone : l.bus.handles = 0) :
    ∃ more l', l.Run 0 more l' ∧ l'.phase = .finished ∧ Unstopped more := by
  -- Waiting leaves the work that is left as it is, since no ticker wakes the loop, and each move
  -- leaves less.
  by_cases hended : l.phase = .finished
  · exact ⟨[], l, .refl, hended, nofun⟩
  · obtain ⟨time, l₁, hwait, hmove⟩ := exists_move hended hsource hnone
    have hwork : l₁.work < l.work := work_now hsource time ▸ work_step? hmove
    have hstep : Noted 0 { l with now := time } _ l₁ := .move hmove
    obtain ⟨more, l', hrun, hfinished, hunstopped⟩ :=
      exists_run_finished l₁ (hstep.source hsource) (hstep.handles hnone topic).1
    refine ⟨_, l', (hwait.step hstep).trans hrun, hfinished, ?_⟩
    rw [List.nil_append]
    intro e he hstop
    obtain hmem | hmem := List.mem_append.1 he
    · have hcall := (moves_of_step? hmove).isCall e hmem
      rw [hstop] at hcall
      nomatch hcall
    · exact hunstopped e hmem hstop
termination_by l.work

/-! ## Other topics -/

/-- A loop as if a topic had never been notified. -/
def deaf (l : Loop) (topic : Topic) : Loop :=
  { l with
    bus := l.bus.modify topic fun _ => .fresh
    counters := l.counters.without (.coalesced topic) }

/-- The end of a cycle is counted whether or not a topic was notified. -/
theorem endCycle_deaf (l : Loop) (other : Topic) (cycle : CycleEnd) :
    (l.deaf other).endCycle cycle = (l.endCycle cycle).deaf other := by
  have hcounters : (l.counters.count (.cycle l.name cycle)).without (.coalesced other) =
      (l.counters.without (.coalesced other)).count (.cycle l.name cycle) :=
    Counters.without_count_of_ne _ nofun
  unfold endCycle deaf
  rw [hcounters]

/-- A sync ends the same way whether or not a topic was notified. -/
theorem endSync_deaf (l : Loop) (other : Topic) (result : Option Outcome) :
    (l.deaf other).endSync result = (l.endSync result).deaf other := by
  obtain _ | _ | _ := result
  · exact l.endCycle_deaf other _
  · show (if l.reloadDelay = 0 then (l.deaf other).startReload else _) =
      (if l.reloadDelay = 0 then l.startReload else _).deaf other
    split <;> rfl
  · exact l.endCycle_deaf other _

/-- A reload ends the same way whether or not a topic was notified. -/
theorem endReload_deaf (l : Loop) (other : Topic) (result : Option Outcome) :
    (l.deaf other).endReload result = (l.endReload result).deaf other := by
  obtain _ | _ := result <;> exact l.endCycle_deaf other _

/-- A loop ends the same way whether or not a topic was notified that does not wake it. -/
theorem finish_deaf (hother : l.source ≠ .signal other) :
    (l.deaf other).finish = l.finish.deaf other := by
  unfold finish deaf
  cases hsource : l.source with
  | interval t => rfl
  | signal topic =>
    have htopic : other ≠ topic := fun heq => hother (heq ▸ hsource)
    dsimp only
    rw [Bus.unsubscribe, Bus.unsubscribe, Bus.modify_comm _ htopic]

/-- A loop wakes the same way whether or not a topic was notified that does not wake it. -/
theorem wake?_deaf (hother : l.source ≠ .signal other) :
    (l.deaf other).wake? = l.wake?.map (·.deaf other) := by
  have hfinish := finish_deaf hother
  unfold wake?
  rw [show (l.deaf other).source = l.source from rfl]
  cases hsource : l.source with
  | interval t =>
    dsimp only
    rw [show (l.deaf other).now = l.now from rfl]
    split <;> rfl
  | signal topic =>
    have htopic : topic ≠ other := fun heq => hother (heq ▸ hsource)
    have harrival : (l.deaf other).bus.arrival topic = l.bus.arrival topic :=
      Bus.arrival_modify l.bus htopic _
    have hreceive : (l.deaf other).bus.receive topic =
        (l.bus.receive topic).modify other fun _ => .fresh :=
      Bus.modify_comm l.bus htopic.symm _ _
    dsimp only
    rw [harrival, hfinish, hreceive]
    cases l.bus.arrival topic <;> rfl

/-- A loop does the same whether or not a topic was notified that does not wake it. -/
theorem step?_deaf (hother : l.source ≠ .signal other) :
    (l.deaf other).step? = l.step?.map (·.deaf other) := by
  unfold step?
  rw [show (l.deaf other).phase = l.phase from rfl, show (l.deaf other).stop = l.stop from rfl,
    show (l.deaf other).now = l.now from rfl, finish_deaf hother, wake?_deaf hother]
  cases l.phase with
  | finished => rfl
  | waiting => dsimp only; split <;> rfl
  | syncing finish result =>
    dsimp only
    rw [endSync_deaf]
    split <;> rfl
  | debouncing finish =>
    dsimp only
    split
    · rfl
    · split <;> rfl
  | reloading finish result =>
    dsimp only
    rw [endReload_deaf]
    split <;> rfl

/-- What becomes of a notification does not depend on another topic. -/
theorem delivery_deaf (l : Loop) (h : topic ≠ other) :
    (l.deaf other).bus.delivery topic = l.bus.delivery topic :=
  congrArg Slot.delivery ((Bus.slot_modify _ _ _ _).trans (if_neg h))

/-- A topic is notified the same way whether or not another one was. -/
theorem notify_deaf (l : Loop) (h : topic ≠ other) :
    (l.deaf other).notify topic = (l.notify topic).deaf other := by
  have hbus : (l.deaf other).bus.notify topic = (l.bus.notify topic).modify other fun _ => .fresh :=
    Bus.modify_comm l.bus h.symm _ _
  have hcounters : (l.deaf other).counters.countDelivery topic (l.bus.delivery topic) =
      (l.counters.countDelivery topic (l.bus.delivery topic)).without (.coalesced other) := by
    cases l.bus.delivery topic with
    | queued | closed => rfl
    | coalesced =>
      exact (Counters.without_count_of_ne _ fun heq => h (Counter.coalesced.inj heq)).symm
  unfold notify
  rw [delivery_deaf l h, hbus, hcounters]
  rfl

/-- That a topic was notified is what is left out. -/
theorem deaf_notify (l : Loop) (other : Topic) : (l.notify other).deaf other = l.deaf other := by
  have hbus : (l.bus.notify other).modify other (fun _ => .fresh) =
      l.bus.modify other fun _ => .fresh := by cases other <;> rfl
  have hcounters : (l.counters.countDelivery other (l.bus.delivery other)).without
      (.coalesced other) = l.counters.without (.coalesced other) := by
    cases l.bus.delivery other with
    | queued | closed => rfl
    | coalesced => exact Counters.without_count_self _ _
  unfold deaf notify
  rw [hbus, hcounters]

/-- Without the notifications of a topic that does not wake the loop a step is the same. -/
theorem Noted.deaf (h : Noted late l entries l') (hother : l.source ≠ .signal other) :
    (l.deaf other).Run late (entries.filter fun e => !e.note.isFor other) (l'.deaf other) := by
  cases h with
  | move hmove =>
    have hfilter : ((l.returning ++ l'.starting).filter fun e => !e.note.isFor other) =
        l.returning ++ l'.starting := by
      refine List.filter_eq_self.2 fun e he => ?_
      have hcall := (moves_of_step? hmove).isCall e he
      obtain ⟨_, _ | _ | _ | _⟩ := e <;> first | rfl | nomatch hcall
    rw [hfilter]
    exact (Noted.move (by rw [step?_deaf hother, hmove]; rfl)).run
  | elapse ms hlate => exact (Noted.elapse (l.deaf other) ms hlate).run
  | trigger => exact (Noted.trigger (l.deaf other)).run
  | release => exact (Noted.release (l.deaf other)).run
  | notify topic hhandles =>
    by_cases htopic : topic = other
    · subst htopic
      rw [deaf_notify, List.filter_cons_of_neg (by simp [LoopNote.isFor])]
      exact .refl
    · have hhandles' : (l.deaf other).bus.handles ≠ 0 := by
        rwa [show (l.deaf other).bus.handles = _ from Bus.handles_modify _ _ _]
      have hnotify : (l.deaf other).Run late _ _ :=
        (Noted.notify (l.deaf other) topic hhandles').run
      rw [delivery_deaf l htopic, notify_deaf l htopic] at hnotify
      rw [List.filter_cons_of_pos (by simp [LoopNote.isFor, htopic])]
      exact hnotify
  | cloneHandle =>
    rw [show l.cloneHandle.deaf other = (l.deaf other).cloneHandle by cases other <;> rfl]
    exact (Noted.cloneHandle (l.deaf other)).run
  | dropHandle =>
    rw [show l.dropHandle.deaf other = (l.deaf other).dropHandle by cases other <;> rfl]
    exact (Noted.dropHandle (l.deaf other)).run

/-- Without the notifications of a topic that does not wake the loop a run is the same. -/
theorem Run.deaf (h : l.Run late log l') (hsource : l.source = .signal topic)
    (hother : other ≠ topic) :
    (l.deaf other).Run late (log.filter fun e => !e.note.isFor other) (l'.deaf other) := by
  induction h with
  | refl => exact .refl
  | step hrun hstep ih =>
    rw [List.filter_append]
    refine ih.trans (hstep.deaf fun hsignal => hother ?_)
    exact WakeSource.signal.inj (hsignal.symm.trans (hrun.source hsource))

/-! ## What a loop owes to its topic -/

/-- What a loop that is woken by a topic owes to those who notify it, at any moment of a run. -/
structure Serves (topic : Topic) (log : List LogEntry) (l : Loop) : Prop where
  /-- As many syncs have started as notifications were queued, but for one that waits. -/
  balance : l.phase ≠ .finished →
    syncsStarted log + (l.bus.slot topic).full.toNat = queuedFor topic log
  /-- After a notification that is queued or coalesced now, a sync starts, or it still waits, or the
  loop was stopped. -/
  heard : l.bus.delivery topic ≠ .closed → ∀ {late : Nat} {more : List LogEntry} {l' : Loop},
    (l.notify topic).Run late more l' → (∃ u ≥ l.now, ⟨u, .started .sync⟩ ∈ more) ∨
      (l'.bus.slot topic).full = true ∨ ¬ Unstopped (log ++ more)
  /-- Without a handle the loop ends even if it is not stopped, and if a notification waits, one
  sync starts before it does. -/
  drains : l.phase ≠ .finished → l.bus.handles = 0 → (l.bus.slot topic).full = true →
    Unstopped log → (∃ more l', l.Run 0 more l' ∧ l'.phase = .finished ∧ Unstopped more) ∧
      ∀ {late : Nat} {more : List LogEntry} {l' : Loop}, l.Run late more l' →
        l'.phase = .finished → Unstopped more → syncsStarted more = 1

section

variable {name : String} {reloadDelay : Nat} {syncs reloads : List Behaviour}

/-- A notification that waits when no handle is left is served by one sync before the loop ends. -/
theorem Run.syncsStarted_eq_one {late' : Nat}
    (h : (start name (.signal topic) reloadDelay syncs reloads).Run late log l)
    (hended : l.phase ≠ .finished) (hnone : l.bus.handles = 0)
    (hfull : (l.bus.slot topic).full = true) (hunstopped : Unstopped log)
    (hmore : l.Run late' more l') (hfinished : l'.phase = .finished)
    (hunstopped' : Unstopped more) : syncsStarted more = 1 := by
  have hwhole := (h.mono (Nat.le_max_left late late')).trans
    (hmore.mono (Nat.le_max_right late late'))
  have hbefore : syncsStarted log + 1 = queuedFor topic log := by
    have hbalance := (h.balanced.running hended).2
    rwa [hfull] at hbalance
  -- It has not ended because it was stopped, so it has ended in balance.
  have hafter : syncsStarted (log ++ more) = queuedFor topic (log ++ more) := by
    obtain ⟨u, hmem⟩ | ⟨-, hbalance⟩ := hwhole.balanced.finished hfinished
    · obtain hmem | hmem := List.mem_append.1 hmem
      · exact absurd rfl (hunstopped _ hmem)
      · exact absurd rfl (hunstopped' _ hmem)
    · exact hbalance
  rw [syncsStarted_append, queuedFor_append, (hmore.handles hnone topic).2, ← hbefore] at hafter
  exact Nat.add_left_cancel hafter

/-- A loop that is woken by a topic starts one sync for each notification that was queued, loses
none, and does the same without those of other topics. -/
theorem serves_of_run (h : (start name (.signal topic) reloadDelay syncs reloads).Run late log l) :
    l.Serves topic log ∧ ∀ other ≠ topic,
      (start name (.signal topic) reloadDelay syncs reloads).Run late
        (log.filter fun e => !e.note.isFor other) (l.deaf other) := by
  have hsource := h.source rfl
  refine ⟨⟨fun hended => (h.balanced.running hended).2, fun hdelivery {late' more l'} hmore => ?_,
    fun hended hnone hfull hunstopped => ⟨l.exists_run_finished hsource hnone, fun hmore =>
      h.syncsStarted_eq_one hended hnone hfull hunstopped hmore⟩⟩, fun other hother => ?_⟩
  · obtain ⟨u, hmem⟩ | hfull | hwakes := hmore.heard hsource (full_notify hdelivery)
    · exact .inl ⟨u, (hmore.time.2 _ hmem).1, hmem⟩
    · exact .inr (.inl hfull)
    · right; right
      intro hunstopped
      obtain hbefore | ⟨u, -, hmem⟩ := hmore.stopped_of_wakes hwakes
      · obtain ⟨u, hmem⟩ := h.exists_stopped hbefore
        exact hunstopped _ (List.mem_append_left _ hmem) rfl
      · exact hunstopped _ (List.mem_append_right _ hmem) rfl
  · have hstart : (start name (.signal topic) reloadDelay syncs reloads).deaf other =
        start name (.signal topic) reloadDelay syncs reloads := by cases other <;> rfl
    have hdeaf := h.deaf rfl hother
    rwa [hstart] at hdeaf

end

/-- A loop whose first sync takes two milliseconds. -/
def attentive : Loop := start "route" (.signal .alertChanged) 0 [⟨some .done, 2⟩] []

/-- That loop during its first sync. Both topics were notified since, and the only handle was
dropped. -/
def attentiveSyncing : Loop := { attentive with
  syncs := []
  now := 1
  phase := .syncing 2 (some .done)
  bus := ⟨⟨true, true⟩, ⟨true, true⟩, 0⟩
  counters := ⟨[.coalesced .alertChanged]⟩
  events := [⟨0, .sync, some .done⟩] }

/-- What was noted until then. -/
def attentiveLog : List LogEntry :=
  [⟨0, .notified .alertChanged .queued⟩, ⟨0, .started .sync⟩, ⟨1, .notified .alertChanged .queued⟩,
    ⟨1, .notified .metricsChanged .queued⟩, ⟨1, .notified .alertChanged .coalesced⟩]

/-- That loop owes one more sync to its topic, and nothing to the other. -/
theorem serves_of_run_attentive : attentive.Run 0 attentiveLog attentiveSyncing ∧
    attentiveSyncing.Serves .alertChanged attentiveLog ∧ ∀ other ≠ .alertChanged,
      attentive.Run 0 (attentiveLog.filter fun e => !e.note.isFor other)
        (attentiveSyncing.deaf other) := by
  have hrun : attentive.Run 0 attentiveLog attentiveSyncing := by
    have hnotified : attentive.Run 0 _ _ :=
      .step .refl (.notify attentive .alertChanged (by decide))
    have hsyncing := (hnotified.step (.move rfl)).step (.elapse _ 1 (by decide))
    have hqueued := hsyncing.step (.notify _ .alertChanged (by decide))
    have hother := hqueued.step (.notify _ .metricsChanged (by decide))
    have hcoalesced := hother.step (.notify _ .alertChanged (by decide))
    have hdropped := hcoalesced.step (.dropHandle _)
    exact hdropped
  exact ⟨hrun, serves_of_run hrun⟩

end Loop

end AlertSync
