import AlertSync.Loop
import Mathlib.Logic.Relation

/-!
# The runs of a loop

Beside a loop others notify its topics, take and drop handles of the bus, and may stop it; and time
passes. A `Step` is one thing that any of them does, or one move of the loop itself. Steps follow
each other in any order: time may pass although the loop could move, so a tick may be late, and a
notification or the stop may come at the very moment at which something is due. A run is a chain of
steps (`Loop.Leads`).

Whatever the loop does without waiting (`Loop.settle`) is a run of its own moves (`leads_settle`),
at whose end it can only wait (`step?_settle`).
-/

namespace AlertSync.Loop

/-- Some time passes. -/
def elapse (l : Loop) (ms : Nat) : Loop := { l with now := l.now + ms }

/-- A handle of the bus is copied. -/
def cloneHandle (l : Loop) : Loop := { l with bus := l.bus.cloneHandle }

/-- One move of a loop, or one thing that happens to it. -/
inductive Step : Loop → Loop → Prop
  | move {l l' : Loop} (h : l.step? = some l') : Step l l'
  | elapse (l : Loop) (ms : Nat) : Step l (l.elapse ms)
  /-- Who notifies has a handle of the bus. -/
  | notify (l : Loop) (topic : Topic) (h : l.bus.handles ≠ 0) : Step l (l.notify topic)
  | cloneHandle (l : Loop) : Step l l.cloneHandle
  | dropHandle (l : Loop) : Step l l.dropHandle
  | trigger (l : Loop) : Step l l.trigger
  | release (l : Loop) : Step l l.release

/-- Whether a run leads from one state of a loop to another. -/
abbrev Leads : Loop → Loop → Prop := Relation.ReflTransGen Step

/-! ## The moves of a loop -/

/-- What a loop does that moves, by what it was doing. -/
theorem move_cases {l l' : Loop} (h : l.step? = some l') :
    (l.phase = .waiting ∧ (l.stop.wakes = true ∧ l' = l.finish ∨
      l.stop.wakes = false ∧ l.wake? = some l')) ∨
    (∃ finish result, l.phase = .syncing finish result ∧ finish ≤ l.now ∧ l' = l.endSync result) ∨
    (∃ finish, l.phase = .debouncing finish ∧
      (l.stop.wakes = true ∧ l' = { l with phase := .waiting } ∨
        l.stop.wakes = false ∧ finish ≤ l.now ∧ l' = l.startReload)) ∨
    ∃ finish result, l.phase = .reloading finish result ∧ finish ≤ l.now ∧
      l' = l.endReload result := by
  unfold step? at h
  split at h
  · nomatch h
  · next hp =>
    refine .inl ⟨hp, ?_⟩
    split at h
    · next hs => exact .inl ⟨hs, (Option.some.inj h).symm⟩
    · next hs => exact .inr ⟨Bool.eq_false_iff.2 hs, h⟩
  · next finish result hp =>
    split at h
    · next hdue => exact .inr (.inl ⟨finish, result, hp, hdue, (Option.some.inj h).symm⟩)
    · nomatch h
  · next finish hp =>
    refine .inr (.inr (.inl ⟨finish, hp, ?_⟩))
    split at h
    · next hs => exact .inl ⟨hs, (Option.some.inj h).symm⟩
    · next hs =>
      split at h
      · next hdue => exact .inr ⟨Bool.eq_false_iff.2 hs, hdue, (Option.some.inj h).symm⟩
      · nomatch h
  · next finish result hp =>
    split at h
    · next hdue => exact .inr (.inr (.inr ⟨finish, result, hp, hdue, (Option.some.inj h).symm⟩))
    · nomatch h

/-- What a loop does that is woken: its ticker is due, or its topic has a notification, or there is
nobody left who could notify it. -/
theorem wake_cases {l l' : Loop} (h : l.wake? = some l') :
    (∃ t, l.source = .interval t ∧ t.deadline ≤ l.now ∧
      l' = { l with source := .interval (t.take l.now) : Loop }.startSync) ∨
    ∃ topic, l.source = .signal topic ∧
      (l.bus.arrival topic = .received ∧
          l' = { l with bus := l.bus.receive topic : Loop }.startSync ∨
        l.bus.arrival topic = .closed ∧ l' = l.finish) := by
  unfold wake? at h
  split at h
  · next t hs =>
    split at h
    · next hdue => exact .inl ⟨t, hs, hdue, (Option.some.inj h).symm⟩
    · nomatch h
  · next topic hs =>
    refine .inr ⟨topic, hs, ?_⟩
    split at h
    · next harrival => exact .inl ⟨harrival, (Option.some.inj h).symm⟩
    · next harrival => exact .inr ⟨harrival, (Option.some.inj h).symm⟩
    · nomatch h

/-- What follows a sync: the end of the cycle, a reload, or a wait for the reload delay. -/
theorem endSync_cases (l : Loop) (r : Option Outcome) :
    (r ≠ some .reload ∧ ∃ result, l.endSync r = l.endCycle result) ∨
      r = some .reload ∧ (l.reloadDelay = 0 ∧ l.endSync r = l.startReload ∨
        l.reloadDelay ≠ 0 ∧
          l.endSync r = { l with phase := .debouncing (l.after l.reloadDelay) }) := by
  obtain _ | _ | _ := r
  · exact .inl ⟨nofun, _, rfl⟩
  · by_cases hdelay : l.reloadDelay = 0
    · exact .inr ⟨rfl, .inl ⟨hdelay, if_pos hdelay⟩⟩
    · exact .inr ⟨rfl, .inr ⟨hdelay, if_neg hdelay⟩⟩
  · exact .inl ⟨nofun, _, rfl⟩

/-- A reload ends with its cycle. -/
theorem exists_endReload (l : Loop) (r : Option Outcome) :
    ∃ result, l.endReload r = l.endCycle result := by
  obtain _ | _ := r <;> exact ⟨_, rfl⟩

/-- A move takes no time, and leaves the stop signal unless the loop ends. -/
theorem now_of_move {l l' : Loop} (h : l.step? = some l') :
    l'.now = l.now ∧ (l'.stop = l.stop ∨ l' = l.finish) := by
  obtain ⟨-, ⟨-, rfl⟩ | ⟨-, hwake⟩⟩ | ⟨_, r, -, -, rfl⟩ | ⟨_, -, ⟨-, rfl⟩ | ⟨-, -, rfl⟩⟩ |
    ⟨_, r, -, -, rfl⟩ := move_cases h
  · exact ⟨rfl, .inr rfl⟩
  · obtain ⟨t, -, -, rfl⟩ | ⟨topic, -, ⟨-, rfl⟩ | ⟨-, rfl⟩⟩ := wake_cases hwake
    · exact ⟨rfl, .inl rfl⟩
    · exact ⟨rfl, .inl rfl⟩
    · exact ⟨rfl, .inr rfl⟩
  · obtain ⟨-, _, heq⟩ | ⟨-, ⟨-, heq⟩ | ⟨-, heq⟩⟩ := l.endSync_cases r <;>
      rw [heq] <;> exact ⟨rfl, .inl rfl⟩
  · exact ⟨rfl, .inl rfl⟩
  · exact ⟨rfl, .inl rfl⟩
  · obtain ⟨_, heq⟩ := l.exists_endReload r
    rw [heq]
    exact ⟨rfl, .inl rfl⟩

/-- A loop that has ended moves no more. -/
theorem phase_ne_finished_of_move {l l' : Loop} (h : l.step? = some l') : l.phase ≠ .finished := by
  intro hp
  unfold step? at h
  rw [hp] at h
  nomatch h

/-! ## What a loop does without waiting -/

/-- A loop that has settled can only wait. -/
theorem step?_settle (l : Loop) : l.settle.step? = none := by
  fun_induction settle l with
  | case1 l h => exact h
  | case2 l l' h ih => exact ih

/-- To settle is to move. -/
theorem leads_settle (l : Loop) : l.Leads l.settle := by
  fun_induction settle l with
  | case1 l h => exact .refl
  | case2 l l' h ih => exact .head (.move h) ih

/-- To settle takes no time. -/
theorem now_settle (l : Loop) : l.settle.now = l.now := by
  fun_induction settle l with
  | case1 l h => rfl
  | case2 l l' h ih => exact ih.trans (now_of_move h).1

end AlertSync.Loop
