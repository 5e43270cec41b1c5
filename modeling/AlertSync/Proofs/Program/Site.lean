import AlertSync.Proofs.Program.Runs
import Mathlib.Data.Finset.Basic

/-!
# What calls do to the store and to the silences

A `Site` is what operations change: the objects in the store, and the silences that are active at
the alerting backend. `Site.answering` says how calls are answered there. The store answers from its
objects and changes them as `Objects` says; every call to it may fail as well, and so may every
other call, and what fails changes nothing. All the rest is free: backends report, and ids are,
whatever they like. Where a property needs more than that, it names a `Promise` on what is answered.
-/

namespace AlertSync

/-- The silence of an alert: it holds for its id in its environment. -/
def Alert.silence (a : Alert) : String × String := (a.id, a.environment)

/-- The objects in the store and the active silences, each for an id in an environment. -/
structure Site where
  objects : Objects
  silences : Finset (String × String)

/-- What somebody promises of the answers. -/
abbrev Promise := (c : Call) → Site → c.Answer → Prop

/-- A promise of nothing. -/
def Promise.none : Promise := fun _ _ _ => True

namespace Site

/-- A site where nothing is stored and nothing silenced. -/
def empty : Site := ⟨.empty, ∅⟩

/-- A call that reads finds what is there, or fails. -/
def Reads {α : Type} (s : Site) (found : α) (x : Except Error α) (t : Site) : Prop :=
  t = s ∧ (x = .ok found ∨ ∃ e, x = .error e)

/-- A call that changes the store either changes it or fails. -/
def Writes (s : Site) (change : Except Error Objects) (x : Except Error Unit) (t : Site) : Prop :=
  (∃ o, change = .ok o ∧ x = .ok () ∧ t = { s with objects := o }) ∨ ∃ e, x = .error e ∧ t = s

/-- A call that changes the silences either changes them or fails. -/
def Silences (s : Site) (after : Finset (String × String)) (x : Except Error Unit) (t : Site) :
    Prop :=
  (x = .ok () ∧ t = { s with silences := after }) ∨ ∃ e, x = .error e ∧ t = s

/-- What an answer to a call means for the store and the silences. -/
def Effect (s : Site) : (c : Call) → c.Answer → Site → Prop
  | .list kind, x, t => s.Reads (s.objects.list kind) x t
  | .get kind id, x, t => s.Reads (s.objects.get? kind id) x t
  | .create kind id payload, x, t => s.Writes (s.objects.create kind id payload) x t
  | .update kind id payload, x, t => s.Writes (s.objects.update kind id payload) x t
  | .delete kind id, x, t => s.Writes (s.objects.delete kind id) x t
  | .addSilence a, x, t => s.Silences (insert a.silence s.silences) x t
  | .removeSilence a, x, t => s.Silences (s.silences.erase a.silence) x t
  | _, _, t => t = s

/-- How calls are answered at a site, under a promise. -/
def answering (P : Promise) : Answering Site := fun c s x t => P c s x ∧ s.Effect c x t

end Site

end AlertSync
