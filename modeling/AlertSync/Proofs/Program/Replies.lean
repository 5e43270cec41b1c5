import AlertSync.Proofs.Program.Ground

/-!
# What programs were answered

A `Reply` is a call together with its answer. Where answers are noted (`Answering.noted`), the state
at the end of a run has the replies that the program got, in their order, and conditions on a run
can speak of the calls that were made and of those that failed. Operations that notify are run where
deliveries are counted as well: a `Tally` is a ground with the counters.
-/

namespace AlertSync

/-- A call and what it was answered with. -/
structure Reply where
  call : Call
  answer : call.Answer

namespace Call

/-- Whether a call, answered so, has failed. -/
def failed : (c : Call) → c.Answer → Bool
  | list _, x | get .., x => !Except.isOk x
  | create .., x | update .., x | delete .., x => !Except.isOk x
  | liveAlerts, x | environments, x | hosts _, x => !Except.isOk x
  | addSilence _, x | removeSilence _, x | reloadRoutes, x | reloadMetrics, x => !Except.isOk x
  | readFile _, x => !Except.isOk x
  | writeFile .., x | moveFile .., x | removeFile _, x => !Except.isOk x
  | freshId, _ | notify _, _ | count _, _ | counters, _ | pause _, _ => false

/-- Whether a call goes to the alerting backend. -/
def isAlerting : Call → Bool
  | liveAlerts | addSilence _ | removeSilence _ | reloadRoutes => true
  | _ => false

end Call

/-- Whether a call failed. -/
def Reply.failed (x : Reply) : Bool := x.call.failed x.answer

/-- How calls are answered if every reply is noted. -/
def Answering.noted {σ : Type} (R : Answering σ) : Answering (σ × List Reply) := fun c s x t =>
  R c s.1 x t.1 ∧ t.2 = s.2 ++ [⟨c, x⟩]

namespace Program

variable {α σ : Type} {R : Answering σ} {p : Program α} {s : σ} {l : List Reply}

/-- What always holds also holds where replies are noted, after those that were noted before. -/
theorem Always.noted {post : α → σ → Prop} (h : Always R post p s) :
    Always R.noted (fun a t => post a t.1 ∧ l <+: t.2) p (s, l) := by
  induction p generalizing s l with
  | done a => exact ⟨h, l.prefix_refl⟩
  | call c next ih =>
    rintro x ⟨u, m⟩ ⟨hx, rfl⟩
    apply (ih x (h x u hx)).mono
    intro a t ht
    exact ⟨ht.1, (l.prefix_append _).trans ht.2⟩

/-- A call that may be answered so is noted. -/
theorem runs_ask_noted {c : Call} {x : c.Answer} {t : σ} (h : R c s x t) :
    (ask c).Runs R.noted (s, l) x (t, l ++ [⟨c, x⟩]) :=
  ⟨x, (t, _), ⟨h, rfl⟩, rfl, rfl⟩

/-- What holds of all calls holds of those that were noted. -/
theorem Calls.always_noted {C : Call → Prop} (h : p.Calls C) (hl : ∀ y ∈ l, C y.call) :
    Always R.noted (fun _ t => ∀ y ∈ t.2, C y.call) p (s, l) := by
  induction p generalizing s l with
  | done a => exact hl
  | call c next ih =>
    rintro x ⟨u, m⟩ ⟨-, rfl⟩
    apply ih x (h.2 x)
    intro y hy
    obtain hy | hy := List.mem_append.1 hy
    · exact hl y hy
    · obtain rfl := List.mem_singleton.1 hy
      exact h.1

end Program

/-- The counters after a call. Of a notification it is counted if it coalesces. -/
def Counters.after (cs : Counters) (b : Bus) : Call → Counters
  | .notify topic => cs.countDelivery topic (b.delivery topic)
  | .count c => cs.count c
  | _ => cs

/-- What operations and loops share, and what was counted. -/
@[ext]
structure Tally where
  ground : Ground
  counters : Counters

namespace Tally

/-- How calls are answered. -/
def answering : Answering Tally := fun c s x t =>
  Ground.answering c s.ground x t.ground ∧ t.counters = s.counters.after s.ground.bus c

/-- What only looks changes nothing. -/
theorem eq_of_answering {c : Call} {s t : Tally} {x : c.Answer} (h : answering c s x t)
    (hsite : c.changesSite = false) (hfile : c.writesFile = false)
    (hbus : s.ground.bus.after c = s.ground.bus)
    (hcounters : s.counters.after s.ground.bus c = s.counters) : t = s := by
  obtain ⟨⟨hs, hf, hb⟩, hc⟩ := h
  have hground : t.ground = s.ground := by
    show Ground.mk t.ground.site t.ground.files t.ground.bus = s.ground
    rw [hs.eq_of_changesSite hsite, hf.eq_of_writesFile hfile, hb, hbus]
  exact Tally.ext hground (hc.trans hcounters)

end Tally

end AlertSync
