import AlertSync.Bus
import AlertSync.Proofs.Contents

/-!
# What calls do to all that is shared

Operations and loops share the store and the silences (`Site`), the files, and the bus: together the
`Ground` on which they run. `Ground.answering` says how calls are answered there and what they leave
behind. A call that changes files does its change or fails, and if it fails, it may leave anything
behind. Notifying always succeeds.

Which calls may change what is told by `Call.writesStore`, `Call.changesSite` and `Call.writesFile`;
a call is harmless if it changes neither stored objects nor files.
-/

namespace AlertSync

namespace Call

/-- Whether a call looks at stored objects. -/
def isRead : Call → Bool
  | list _ | get .. => true
  | _ => false

/-- Whether a call may change stored objects. -/
def writesStore : Call → Bool
  | create .. | update .. | delete .. => true
  | _ => false

/-- Whether a call may change stored objects or silences. -/
def changesSite : Call → Bool
  | create .. | update .. | delete .. | addSilence _ | removeSilence _ => true
  | _ => false

/-- Whether a call may change files. -/
def writesFile : Call → Bool
  | writeFile .. | moveFile .. | removeFile .. => true
  | _ => false

/-- Whether a call leaves the stored objects and the files as they are. -/
def isHarmless (c : Call) : Bool := !c.writesStore && !c.writesFile

/-- Whether a call, answered so, has written to the store. -/
def wrote : (c : Call) → c.Answer → Bool
  | create .., x | update .., x | delete .., x => Except.isOk x
  | _, _ => false

/-- A harmless call writes neither to the store nor to files. -/
theorem isHarmless_iff {c : Call} :
    c.isHarmless = true ↔ c.writesStore = false ∧ c.writesFile = false := by
  unfold isHarmless
  rw [Bool.and_eq_true, Bool.not_eq_true', Bool.not_eq_true']

/-- To read is harmless. -/
theorem isHarmless_of_isRead (c : Call) (h : c.isRead = true) : c.isHarmless = true := by
  cases c <;> first | rfl | nomatch h

end Call

/-- What does not write to the store leaves the contents as they are. -/
theorem Site.Effect.exists_site {k : Contents} {w : Finset (String × String)} {c : Call}
    {x : c.Answer} {t : Site} (hc : c.writesStore = false) (h : (k.site w).Effect c x t) :
    ∃ w', t = k.site w' := by
  cases c with
  | create _ _ _ | update _ _ _ | delete _ _ => nomatch hc
  | list _ | get _ _ => exact ⟨w, h.1⟩
  | addSilence a =>
    obtain ⟨-, rfl⟩ | ⟨e, -, rfl⟩ := h
    · exact ⟨insert a.silence w, rfl⟩
    · exact ⟨w, rfl⟩
  | removeSilence a =>
    obtain ⟨-, rfl⟩ | ⟨e, -, rfl⟩ := h
    · exact ⟨w.erase a.silence, rfl⟩
    · exact ⟨w, rfl⟩
  | freshId | notify _ | count _ | counters | liveAlerts | reloadRoutes | reloadMetrics
  | environments | hosts _ | readFile _ | writeFile _ _ | moveFile _ _ | removeFile _ | pause _ =>
    exact ⟨w, h⟩

/-- What changes neither stored objects nor silences leaves the site as it is. -/
theorem Site.Effect.eq_of_changesSite {s t : Site} {c : Call} {x : c.Answer}
    (hc : c.changesSite = false) (h : s.Effect c x t) : t = s := by
  cases c with
  | create _ _ _ | update _ _ _ | delete _ _ | addSilence _ | removeSilence _ => nomatch hc
  | list _ | get _ _ => exact h.1
  | freshId | notify _ | count _ | counters | liveAlerts | reloadRoutes | reloadMetrics
  | environments | hosts _ | readFile _ | writeFile _ _ | moveFile _ _ | removeFile _ | pause _ =>
    exact h

namespace FileSystem

/-- A change of the files that succeeds is made; one that fails may leave anything behind. -/
def Changes (change : Except Error FileSystem) (x : Except Error Unit) (t : FileSystem) : Prop :=
  (x = .ok () ∧ change = .ok t) ∨ ∃ e, x = .error e

/-- What an answer to a call means for the files. -/
def Effect (fs : FileSystem) : (c : Call) → c.Answer → FileSystem → Prop
  | .writeFile path text, x, t => Changes (fs.write path text) x t
  | .moveFile source target, x, t => Changes (fs.move source target) x t
  | .removeFile path, x, t => Changes (fs.remove path) x t
  | _, _, t => t = fs

/-- What does not write files leaves them as they are. -/
theorem Effect.eq_of_writesFile {fs t : FileSystem} {c : Call} {x : c.Answer}
    (hc : c.writesFile = false) (h : fs.Effect c x t) : t = fs := by
  cases c with
  | writeFile _ _ | moveFile _ _ | removeFile _ => nomatch hc
  | list _ | get _ _ | create _ _ _ | update _ _ _ | delete _ _ | freshId | notify _ | count _
  | counters | liveAlerts | addSilence _ | removeSilence _ | reloadRoutes | reloadMetrics
  | environments | hosts _ | readFile _ | pause _ => exact h

end FileSystem

namespace Bus

variable {topic : Topic}

/-- The bus after a call. -/
def after (b : Bus) : Call → Bus
  | .notify topic => b.notify topic
  | _ => b

/-- The slot of a topic that is notified. -/
theorem slot_after_notify (b : Bus) (topic : Topic) :
    (b.after (.notify topic)).slot topic = (b.slot topic).notify := by
  show (b.modify topic Slot.notify).slot topic = _
  rw [slot_modify, if_pos rfl]

/-- Any other call leaves the slot of the topic as it is. -/
theorem slot_after_of_ne {c : Call} (h : c ≠ .notify topic) (b : Bus) :
    (b.after c).slot topic = b.slot topic := by
  unfold after
  split
  · next u =>
    have hne : topic ≠ u := fun heq => h (heq ▸ rfl)
    show (b.modify u Slot.notify).slot topic = _
    rw [slot_modify, if_neg hne]
  · rfl

/-- Calls do not end a subscription. -/
theorem subscribed_after (b : Bus) (c : Call) :
    ((b.after c).slot topic).subscribed = (b.slot topic).subscribed := by
  by_cases h : c = .notify topic
  · rw [h, slot_after_notify]
    rfl
  · rw [slot_after_of_ne h]

end Bus

/-- What operations and loops share. -/
structure Ground where
  site : Site
  files : FileSystem
  bus : Bus

namespace Ground

/-- How calls are answered. -/
def answering : Answering Ground := fun c g x g' =>
  g.site.Effect c x g'.site ∧ g.files.Effect c x g'.files ∧ g'.bus = g.bus.after c

end Ground

end AlertSync
