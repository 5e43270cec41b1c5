import AlertSync.Proofs.Loop.Log
import Mathlib.Data.List.Chain

/-!
# Syncs neither burst nor drift

A loop that is woken by a ticker starts its first sync when a whole period is over, and each other
one at least a period after the one before, but for the few milliseconds by which a tick may be late
without moving the schedule (`Spaced`). This holds however late the ticks are taken and however long
the cycles take.

If the ticks are taken as soon as they are due, and no cycle takes longer than a period, the syncs
start at the multiples of the period, and none is left out (`OnTime`).

Both are invariants of what the ticker is due for: a step takes a tick, or it leaves the ticker as
it is and starts no sync (`Noted.tick_or_rest`).
-/

namespace AlertSync

/-- When a sync starts, if that is what is noted. -/
def LogEntry.syncStart? : LogEntry → Option Nat
  | ⟨time, .started .sync⟩ => some time
  | ⟨_, .started .reload⟩ | ⟨_, .returned ..⟩ | ⟨_, .notified ..⟩ | ⟨_, .stopped⟩ => none

/-- When the syncs of a log start. -/
def syncStarts (log : List LogEntry) : List Nat := log.filterMap LogEntry.syncStart?

theorem syncStarts_append (log more : List LogEntry) :
    syncStarts (log ++ more) = syncStarts log ++ syncStarts more := List.filterMap_append

/-- What stands at some place of two lists, one after the other, stands in the first or in the
second. -/
theorem append_cons_cases {α : Type} {l m before after : List α} {a : α}
    (h : l ++ m = before ++ a :: after) :
    (∃ more, l = before ++ a :: more) ∨ ∃ more, before = l ++ more ∧ m = more ++ a :: after := by
  obtain ⟨more, hbefore, hm⟩ | ⟨more, hl, hm⟩ := List.append_eq_append_iff.1 h
  · exact .inr ⟨more, hbefore, hm⟩
  · cases more with
    | nil =>
      have hsame : l ++ [] = before := (List.append_nil l).trans (hl.trans (List.append_nil before))
      exact .inr ⟨[], hsame.symm, hm.symm⟩
    | cons b more =>
      obtain ⟨rfl, -⟩ := List.cons.inj hm
      exact .inl ⟨more, hl⟩

/-- Whether a log ends within a cycle: nothing that is noted since its sync started is its end. -/
def InCycle (begun : Nat) (log : List LogEntry) : Prop :=
  ∃ before between, log = before ++ ⟨begun, .started .sync⟩ :: between ∧
    ∀ e ∈ between, e.note.ends? = none

/-- Whether every cycle that ends in a log takes at most so long. -/
def CyclesWithin (most : Nat) (log : List LogEntry) : Prop :=
  ∀ begun before e after, log = before ++ e :: after → InCycle begun before →
    e.note.ends?.isSome → e.time ≤ begun + most

variable {begun most : Nat} {log entries more : List LogEntry} {e : LogEntry}

/-- A cycle goes on as long as nothing is noted that ends one. -/
theorem InCycle.append (h : InCycle begun log) (hnone : ∀ e ∈ entries, e.note.ends? = none) :
    InCycle begun (log ++ entries) := by
  obtain ⟨before, between, rfl, hbetween⟩ := h
  refine ⟨before, between ++ entries, List.append_assoc _ _ _, fun e he => ?_⟩
  exact (List.mem_append.1 he).elim (hbetween e) (hnone e)

/-- What holds of the cycles of a log holds of those at its head. -/
theorem CyclesWithin.of_append (h : CyclesWithin most (log ++ more)) : CyclesWithin most log := by
  rintro begun before e after rfl
  exact h begun before e (after ++ more) (List.append_assoc _ _ _)

/-- A cycle that ends last took no longer than the others. -/
theorem CyclesWithin.time_le {cycle : CycleEnd} (h : CyclesWithin most (log ++ [e]))
    (hcycle : InCycle begun log) (hend : e.note.ends? = some cycle) : e.time ≤ begun + most :=
  h begun log e [] rfl hcycle (by rw [hend]; rfl)

namespace Loop

variable {late period : Nat} {l l' : Loop} {t : Ticker} {starts : List Nat}

/-! ## What a ticker allows -/

/-- A loop that was not stopped is woken by a ticker that is due. -/
theorem deadline_le_of_move (h : l.step? = some l') (hphase : l.phase = .waiting)
    (hstop : l.stop.wakes = false) (hsource : l.source = .interval t) : t.deadline ≤ l.now := by
  have hwake : l.wake? = some l' := by
    rw [step?, hphase] at h
    simpa [hstop] using h
  obtain ⟨t', hticker, hdue, -⟩ | ⟨topic, htopic, -⟩ := wake_cases hwake
  · obtain rfl := WakeSource.interval.inj (hticker.symm.trans hsource)
    exact hdue
  · cases htopic.symm.trans hsource

/-- A step takes a tick, or it leaves the ticker and starts no sync. -/
theorem Noted.tick_or_rest (h : Noted late l entries l') (hsource : l.source = .interval t) :
    (l.phase = .waiting ∧ l.stop.wakes = false ∧ t.deadline ≤ l.now ∧
      entries = [⟨l.now, .started .sync⟩] ∧
      l' = { l with source := .interval (t.take l.now) : Loop }.startSync) ∨
    l'.source = .interval t ∧ syncStarts entries = [] := by
  cases h with
  | move hmove =>
    have hmoves := moves_of_step? hmove
    generalize l.returning ++ l'.starting = entries at hmoves
    cases hmoves with
    | tick hphase hstop hticker =>
      obtain rfl := WakeSource.interval.inj (hticker.symm.trans hsource)
      exact .inl ⟨hphase, hstop, deadline_le_of_move hmove hphase hstop hsource, rfl, rfl⟩
    | receive _ _ htopic => nomatch htopic.symm.trans hsource
    | finishStopped | finishClosed | endSync | reloadAtOnce | debounce | skip | reload
    | endReload => exact .inr ⟨hsource, rfl⟩
  | elapse | notify | cloneHandle | dropHandle | trigger | release => exact .inr ⟨hsource, rfl⟩

/-! ## However late the ticks are -/

/-- Syncs that are a period apart, but for the lateness that a ticker tolerates, the first one a
period after the beginning; and so is the next one if it is not early. -/
structure Spaced (period : Nat) (starts : List Nat) (t : Ticker) : Prop where
  period_eq : t.period = period
  first : ∀ u ∈ starts.head?, period ≤ u
  apart : starts.IsChain fun u v => u + period ≤ v + Ticker.tolerance
  due_first : starts = [] → period ≤ t.deadline
  due : ∀ u ∈ starts.getLast?, u + period ≤ t.deadline + Ticker.tolerance

/-- A tick that is taken when it is due, or later, keeps the syncs apart. -/
theorem Spaced.take {now : Nat} (h : Spaced period starts t) (hdue : t.deadline ≤ now) :
    Spaced period (starts ++ [now]) (t.take now) where
  period_eq := h.period_eq
  first := by
    cases hstarts : starts with
    | nil =>
      intro u hu
      obtain rfl := Option.some.inj hu
      exact Nat.le_trans (h.due_first hstarts) hdue
    | cons u _ =>
      have hfirst := h.first
      rw [hstarts] at hfirst
      exact hfirst
  apart := by
    refine List.isChain_append.2 ⟨h.apart, List.isChain_singleton now, fun u hu v hv => ?_⟩
    obtain rfl := Option.some.inj hv
    exact Nat.le_trans (h.due u hu) (Nat.add_le_add_right hdue _)
  due_first hnil := absurd hnil (List.append_ne_nil_of_right_ne_nil _ (List.cons_ne_nil _ _))
  due u hu := by
    rw [List.getLast?_concat] at hu
    obtain rfl := Option.some.inj hu
    -- A tick that is too late is the beginning of a new schedule.
    have hperiod := h.period_eq
    unfold Ticker.take
    dsimp only
    split <;> omega

section

variable {name : String} {delay : Nat} {syncs reloads : List Behaviour}

/-- A ticker is due for the first time when a period is over. -/
theorem ticker_of_start? (h : Ticker.start? 0 period = some t) :
    t.period = period ∧ t.deadline = period := by
  unfold Ticker.start? at h
  split at h
  · obtain rfl := Option.some.inj h
    exact ⟨rfl, Nat.zero_add _⟩
  · cases h

/-- The syncs of every run are spaced. -/
theorem Run.spaced (hstart : Ticker.start? 0 period = some t)
    (h : (start name (.interval t) delay syncs reloads).Run late log l) :
    ∃ t', l.source = .interval t' ∧ Spaced period (syncStarts log) t' := by
  induction h with
  | refl =>
    obtain ⟨hperiod, hdeadline⟩ := ticker_of_start? hstart
    exact ⟨t, rfl, hperiod, nofun, .nil, fun _ => Nat.le_of_eq hdeadline.symm, nofun⟩
  | step _ hstep ih =>
    obtain ⟨t', hsource, hspaced⟩ := ih
    rw [syncStarts_append]
    obtain ⟨-, -, hdue, rfl, rfl⟩ | ⟨hsame, hnone⟩ := hstep.tick_or_rest hsource
    · exact ⟨_, rfl, hspaced.take hdue⟩
    · rw [hnone, List.append_nil]
      exact ⟨t', hsame, hspaced⟩

/-! ## Where no tick is late -/

/-- What has been started so far, and what the ticker is due for, if every sync has started at a
multiple of the period. -/
structure OnTime (period : Nat) (log : List LogEntry) (l : Loop) (t : Ticker) : Prop where
  period_eq : t.period = period
  past : (syncStarts log).length * period ≤ l.now
  deadline : t.deadline = ((syncStarts log).length + 1) * period
  waiting : l.phase = .waiting → l.stop.wakes = false → l.now ≤ t.deadline
  running : l.phase ≠ .waiting → l.phase ≠ .finished →
    InCycle ((syncStarts log).length * period) log

/-- A tick that is taken by a loop on time is taken at the next multiple of the period. -/
theorem OnTime.now_eq (h : OnTime period log l t) (hphase : l.phase = .waiting)
    (hstop : l.stop.wakes = false) (hdue : t.deadline ≤ l.now) :
    l.now = ((syncStarts log).length + 1) * period :=
  (Nat.le_antisymm (h.waiting hphase hstop) hdue).trans h.deadline

/-- A loop on time that takes a tick stays on time. -/
theorem OnTime.tick (h : OnTime period log l t) (hphase : l.phase = .waiting)
    (hstop : l.stop.wakes = false) (hdue : t.deadline ≤ l.now) :
    OnTime period (log ++ [⟨l.now, .started .sync⟩])
      { l with source := .interval (t.take l.now) : Loop }.startSync (t.take l.now) := by
  have hnow := h.now_eq hphase hstop hdue
  have hlength : (syncStarts (log ++ [⟨l.now, .started .sync⟩])).length =
      (syncStarts log).length + 1 := by
    rw [syncStarts_append, List.length_append]
    rfl
  have hnext : (t.take l.now).deadline = t.deadline + t.period :=
    if_neg (Nat.not_lt.2 ((h.waiting hphase hstop).trans (Nat.le_add_right _ _)))
  refine ⟨h.period_eq, ?_, ?_, nofun, fun _ _ => ⟨log, [], ?_, List.forall_mem_nil _⟩⟩ <;>
    rw [hlength]
  · exact Nat.le_of_eq hnow.symm
  · rw [hnext, h.deadline, h.period_eq, Nat.succ_mul (_ + 1)]
  · rw [← hnow]

/-- A loop on time stays so as long as it takes no tick, if its cycle ends within a period. -/
theorem OnTime.rest (h : OnTime period log l t) (hstep : Noted late l entries l')
    (hprompt : l.Prompt l') (hsource : l.source = .interval t) (hnone : syncStarts entries = [])
    (hquick : CyclesWithin period (log ++ entries)) : OnTime period (log ++ entries) l' t := by
  have hsame : syncStarts (log ++ entries) = syncStarts log := by
    rw [syncStarts_append, hnone, List.append_nil]
  have hpast : (syncStarts log).length * period ≤ l'.now := h.past.trans hstep.time.1
  have hdue : (syncStarts log).length * period + period = t.deadline := by
    rw [h.deadline, Nat.succ_mul]
  refine ⟨h.period_eq, hsame.symm ▸ hpast, hsame.symm ▸ h.deadline, ?_, ?_⟩
  · intro hwaiting hstop
    obtain hmove | hbeside := hstep.moves_or_beside
    · cases hmove with
      | finishStopped | finishClosed | reloadAtOnce | debounce | reload => nomatch hwaiting
      | tick | receive => nomatch hnone
      | endSync hphase hend | endReload hphase hend =>
        -- The cycle began when the last tick was due, and the next is due a period later.
        have hcycle := h.running (by rw [hphase]; exact nofun) (by rw [hphase]; exact nofun)
        exact hdue ▸ hquick.time_le hcycle hend
      | skip _ hstopped => exact absurd hstopped (hstop ▸ Bool.false_ne_true)
    · have hbefore : l.phase = .waiting := hbeside.phase.symm.trans hwaiting
      have hunstopped : l.stop.wakes = false :=
        Bool.eq_false_iff.2 fun hwakes => absurd (hbeside.wakes hwakes) (hstop ▸ Bool.false_ne_true)
      have hnow := hprompt hbefore t hsource
      rwa [Nat.max_eq_right (h.waiting hbefore hunstopped)] at hnow
  · rw [hsame]
    intro hbusy hgoing
    have hgoes (hphase : l.phase ≠ .waiting) (hgoing : l.phase ≠ .finished)
        (hends : ∀ e ∈ entries, e.note.ends? = none) :
        InCycle ((syncStarts log).length * period) (log ++ entries) :=
      (h.running hphase hgoing).append hends
    obtain hmove | hbeside := hstep.moves_or_beside
    · cases hmove with
      | finishStopped | finishClosed => exact absurd rfl hgoing
      | tick | receive => nomatch hnone
      | endSync | endReload | skip => exact absurd rfl hbusy
      | reloadAtOnce hphase | debounce hphase | reload hphase =>
        refine hgoes (by rw [hphase]; exact nofun) (by rw [hphase]; exact nofun) ?_
        simp [LoopNote.ends?]
    · rw [hbeside.phase] at hbusy hgoing
      exact hgoes hbusy hgoing fun e he => LoopNote.ends?_of_isCall (hbeside.quiet e he)

/-- A prompt run whose cycles take no longer than a period is on time. -/
theorem PromptRun.onTime (hstart : Ticker.start? 0 period = some t)
    (h : (start name (.interval t) delay syncs reloads).PromptRun late log l)
    (hquick : CyclesWithin period log) :
    ∃ t', l.source = .interval t' ∧ OnTime period log l t' := by
  induction h with
  | refl =>
    obtain ⟨hperiod, hdeadline⟩ := ticker_of_start? hstart
    refine ⟨t, rfl, hperiod, ?_, ?_, fun _ _ => Nat.zero_le _, fun hphase => absurd rfl hphase⟩
    · exact Nat.le_of_eq (Nat.zero_mul _)
    · exact hdeadline.trans (Nat.one_mul _).symm
  | step _ hstep hprompt ih =>
    obtain ⟨t', hsource, hontime⟩ := ih hquick.of_append
    obtain ⟨hphase, hstop, hdue, rfl, rfl⟩ | ⟨hsame, hnone⟩ := hstep.tick_or_rest hsource
    · exact ⟨_, rfl, hontime.tick hphase hstop hdue⟩
    · exact ⟨t', hsame, hontime.rest hstep hprompt hsource hnone hquick⟩

/-- A sync of a prompt run starts at a multiple of the period, if the cycles before it take no
longer than a period. -/
theorem PromptRun.start_eq {before after : List LogEntry} {u : Nat}
    (hstart : Ticker.start? 0 period = some t)
    (h : (start name (.interval t) delay syncs reloads).PromptRun late log l)
    (hlog : log = before ++ ⟨u, .started .sync⟩ :: after) (hquick : CyclesWithin period before) :
    u = ((syncStarts before).length + 1) * period := by
  induction h generalizing after with
  | refl => nomatch (List.append_ne_nil_of_right_ne_nil before (List.cons_ne_nil _ after)) hlog.symm
  | @step log entries l' l'' hrun hstep _ ih =>
    obtain ⟨more, rfl⟩ | ⟨more, rfl, hentries⟩ := append_cons_cases hlog
    · exact ih rfl
    · -- The sync starts with the last step, which therefore takes a tick.
      obtain ⟨t', hsource, hontime⟩ := hrun.onTime hstart hquick.of_append
      obtain ⟨hphase, hstop, hdue, htick, -⟩ | ⟨-, hnone⟩ := hstep.tick_or_rest hsource
      · obtain ⟨rfl, rfl⟩ : more = [] ∧ u = l'.now := by
          rw [htick] at hentries
          cases more with
          | nil => exact ⟨rfl, (LogEntry.mk.inj (List.cons.inj hentries).1).1.symm⟩
          | cons e more => simp at hentries
        rw [List.append_nil]
        exact hontime.now_eq hphase hstop hdue
      · rw [hentries, syncStarts_append] at hnone
        simp [syncStarts, LogEntry.syncStart?] at hnone

/-- A prompt run whose cycles take no longer than a period has left out no sync, whenever it can
only wait for the next one. -/
theorem PromptRun.length_eq (hstart : Ticker.start? 0 period = some t)
    (h : (start name (.interval t) delay syncs reloads).PromptRun late log l)
    (hquick : CyclesWithin period log) (hmove : l.step? = none) (hphase : l.phase = .waiting) :
    (syncStarts log).length = l.now / period := by
  obtain ⟨t', hsource, hontime⟩ := h.onTime hstart hquick
  have hnow : l.now < t'.deadline := now_lt_of_due? hmove (by simp [due?, hphase, hsource])
  rw [hontime.deadline] at hnow
  exact (Nat.div_eq_of_lt_le hontime.past hnow).symm

/-- A loop that is woken by a ticker starts no sync before a period is over, and each other one no
earlier than five milliseconds before a period is over since the one before. If its ticks are taken
when they are due, the syncs start at the multiples of the period, as long as no cycle takes longer
than a period, and none is left out. -/
theorem paced_of_run (hstart : Ticker.start? 0 period = some t) :
    (∀ {late log l}, (start name (.interval t) delay syncs reloads).Run late log l →
      (∀ u ∈ (syncStarts log).head?, period ≤ u) ∧
      (syncStarts log).IsChain fun u v => u + period ≤ v + 5) ∧
    ∀ {late log l}, (start name (.interval t) delay syncs reloads).PromptRun late log l →
      (∀ before u after, log = before ++ ⟨u, .started .sync⟩ :: after → CyclesWithin period before →
        u = ((syncStarts before).length + 1) * period) ∧
      (CyclesWithin period log → l.step? = none → l.phase = .waiting →
        (syncStarts log).length = l.now / period) := by
  refine ⟨fun hrun => ?_, fun hrun => ⟨fun before u after hlog hquick => ?_, ?_⟩⟩
  · obtain ⟨t', -, hspaced⟩ := hrun.spaced hstart
    exact ⟨hspaced.first, hspaced.apart⟩
  · exact hrun.start_eq hstart hlog hquick
  · exact hrun.length_eq hstart

end

/-- A loop that is woken every twenty milliseconds, whose first sync takes three milliseconds. -/
def steady : Loop := start "target" (.interval ⟨20, by decide, 20⟩) 0 [⟨some .done, 3⟩] []

/-- What is noted of that loop if its first tick is taken seven milliseconds late. -/
def overdueLog : List LogEntry :=
  [⟨27, .started .sync⟩, ⟨30, .returned .sync (some .done)⟩, ⟨47, .started .sync⟩]

/-- What is noted of that loop if its first tick is taken in time. -/
def steadyLog : List LogEntry := [⟨20, .started .sync⟩, ⟨23, .returned .sync (some .done)⟩]

/-- The one cycle that is noted so takes three milliseconds. -/
theorem cyclesWithin_steadyLog : CyclesWithin 20 steadyLog := by
  rintro first before e after hlog ⟨former, between, rfl, -⟩ hend
  -- Behind the start of the sync there is only the end of the cycle.
  obtain ⟨rfl, rfl⟩ : former = [] ∧ between = [] := by
    have hlength := congrArg List.length hlog
    simp [steadyLog] at hlength
    exact ⟨List.eq_nil_of_length_eq_zero (by omega), List.eq_nil_of_length_eq_zero (by omega)⟩
  simp only [steadyLog, List.nil_append, List.cons_append, List.cons.injEq, LogEntry.mk.injEq]
    at hlog
  obtain ⟨⟨rfl, -⟩, rfl, -⟩ := hlog
  decide

/-- A late tick does not bring the next one nearer than a period, and after one in time the second
sync of that loop starts at the second multiple of its period. -/
theorem paced_of_run_steady :
    Ticker.start? 0 20 = some ⟨20, by decide, 20⟩ ∧
    (∃ l, steady.Run 0 overdueLog l) ∧
    ((syncStarts overdueLog).IsChain fun u v => u + 20 ≤ v + 5) ∧
    (∃ l, steady.PromptRun 0 (steadyLog ++ [⟨40, .started .sync⟩]) l) ∧
    CyclesWithin 20 steadyLog ∧ 40 = ((syncStarts steadyLog).length + 1) * 20 := by
  have hstart : Ticker.start? 0 20 = some ⟨20, by decide, 20⟩ := rfl
  have hlate : ∃ l, steady.Run 0 overdueLog l := by
    have hdue : steady.Run 0 _ _ := .step .refl (.elapse steady 27 (by decide))
    have hsyncing := hdue.step (.move rfl)
    have hended := (hsyncing.step (.elapse _ 3 (by decide))).step (.move rfl)
    have hagain := (hended.step (.elapse _ 17 (by decide))).step (.move rfl)
    exact ⟨_, hagain⟩
  have hprompt : ∃ l, steady.PromptRun 0 (steadyLog ++ [⟨40, .started .sync⟩]) l := by
    have hdue : steady.PromptRun 0 _ _ :=
      .step .refl (.elapse steady 20 (by decide)) fun _ t ht => by cases ht; decide
    have hsyncing := hdue.step (.move rfl) (prompt_of_now rfl)
    have hreturned := hsyncing.step (.elapse _ 3 (by decide)) nofun
    have hended := hreturned.step (.move rfl) (prompt_of_now rfl)
    have hwaited := hended.step (.elapse _ 17 (by decide)) fun _ t ht => by cases ht; decide
    have hagain := hwaited.step (.move rfl) (prompt_of_now rfl)
    exact ⟨_, hagain⟩
  obtain ⟨_, hlate'⟩ := hlate
  obtain ⟨_, hprompt'⟩ := hprompt
  have hspaced := ((paced_of_run hstart).1 hlate').2
  have htimed := ((paced_of_run hstart).2 hprompt').1 steadyLog 40 [] rfl cyclesWithin_steadyLog
  exact ⟨hstart, ⟨_, hlate'⟩, hspaced, ⟨_, hprompt'⟩, cyclesWithin_steadyLog, htimed⟩

end Loop

end AlertSync
