import AlertSync.Proofs.Request
import AlertSync.Synchronizer
import Mathlib.Logic.Relation

/-!
# Ticks of the state synchronizer

A tick takes the states of all alerts over that are not disabled, one alert after the other. What it
can do to one of them is said by `Settled`: nothing, or remove its silence if that is left over, and
then write it as it was observed, where each of both may fail. A tick is a sequence of such steps
(`always_syncStates`), each on an alert that is still as it was listed.
-/

namespace AlertSync

open Program (Always)

/-- What may become of the silences when an alert is settled: the silence that is left over is
removed, unless that fails. -/
def Reconciliation.Unsilenced (P : Promise) (r : Reconciliation) (k : Contents)
    (w w' : Finset (String × String)) : Prop :=
  if r.removeSilence then
    w' = w.erase r.alert.silence ∨ w' = w ∧ ∃ e, P (.removeSilence r.alert) (k.site w) (.error e)
  else w' = w

/-- What may become of the store and the silences when an alert is settled. -/
inductive Reconciliation.Settled (P : Promise) (r : Reconciliation) (k : Contents)
    (w : Finset (String × String)) : Contents → Finset (String × String) → Prop
  /-- There is nothing new to store. -/
  | unchanged (h : r.changed = false) : Settled P r k w k w
  /-- What is new could not be stored. -/
  | unwritten {w' : Finset (String × String)} (h : r.changed = true)
      (hsilences : r.Unsilenced P k w w') : Settled P r k w k w'
  | written {w' : Finset (String × String)} (h : r.changed = true)
      (hsilences : r.Unsilenced P k w w') (hadmitted : (Edit.update (.alert r.alert)).Admitted k) :
      Settled P r k w (k.put (.alert r.alert)) w'

namespace Synchronizer

variable {P : Promise} {k : Contents} {w : Finset (String × String)}

/-- An alert is settled in one of the ways in which it can be. -/
theorem always_settle (r : Reconciliation) :
    Always (Site.answering P) (fun _ t => ∃ k' w', r.Settled P k w k' w' ∧ t = k'.site w')
      (settle r) (k.site w) := by
  -- Last of all the alert is written, whatever the silences are by then.
  have hwrite (h : r.changed = true) (w' : Finset (String × String))
      (hsilences : r.Unsilenced P k w w') :
      Always (Site.answering P) (fun _ t => ∃ k' w', r.Settled P k w k' w' ∧ t = k'.site w')
        ((Registry.updateAlert r.alert).outcome >>= fun _ => pure ()) (k.site w') := by
    rw [Program.always_bind]
    apply (Edit.update (.alert r.alert)).always_write
    · intro err
      exact ⟨k, w', .unwritten h hsilences, rfl⟩
    · intro hadmitted
      exact ⟨_, w', .written h hsilences hadmitted, rfl⟩
  have hunsilence (h : r.changed = true) (hleft : r.removeSilence = true) :
      Always (Site.answering P) (fun _ t => ∃ k' w', r.Settled P k w k' w' ∧ t = k'.site w')
        (unsilence r.alert >>= fun _ => (Registry.updateAlert r.alert).outcome >>= fun _ =>
          pure ()) (k.site w) := by
    rintro x t ⟨hx, ⟨rfl, rfl⟩ | ⟨e, rfl, rfl⟩⟩
    · rintro _ u ⟨-, rfl⟩
      apply hwrite h
      rw [Reconciliation.Unsilenced, if_pos hleft]
      exact .inl rfl
    · apply hwrite h
      rw [Reconciliation.Unsilenced, if_pos hleft]
      exact .inr ⟨rfl, e, hx⟩
  have hkept (h : r.removeSilence ≠ true) : r.Unsilenced P k w w := by
    rw [Reconciliation.Unsilenced, if_neg h]
  unfold settle
  split
  · next h =>
    split
    · next hleft =>
      split
      · rintro _ t ⟨-, rfl⟩
        exact hunsilence h hleft
      · exact hunsilence h hleft
    · next hnone =>
      split
      · rintro _ t ⟨-, rfl⟩
        exact hwrite h w (hkept hnone)
      · exact hwrite h w (hkept hnone)
  · next h => exact ⟨k, w, .unchanged (eq_false_of_ne_true h), rfl⟩

/-- Whether settling an alert that is stored and not disabled takes one state of the store and the
silences to another. -/
def Settling (P : Promise) (live : List LiveAlert)
    (s t : Contents × Finset (String × String)) : Prop :=
  ∃ a, s.1.alerts.find? a.id = some a ∧ a.isDisabled = false ∧
    (a.reconcile live).Settled P s.1 s.2 t.1 t.2

/-- Alerts that are settled one after the other are settled each. -/
theorem always_forM_settle (live : List LiveAlert) {l : List Alert}
    (hstored : ∀ a ∈ l, k.alerts.find? a.id = some a ∧ a.isDisabled = false)
    (hdistinct : (l.map (·.id)).Nodup) :
    Always (Site.answering P)
      (fun _ t => ∃ k' w', t = k'.site w' ∧
        Relation.ReflTransGen (Settling P live) (k, w) (k', w'))
      (l.forM fun a => settle (a.reconcile live)) (k.site w) := by
  -- What is settled is settled at its own id, so the alerts that follow are stored as before.
  induction l generalizing k w with
  | nil => exact ⟨k, w, rfl, .refl⟩
  | cons a l ih =>
    obtain ⟨hfound, henabled⟩ := hstored a List.mem_cons_self
    rw [List.map_cons, List.nodup_cons] at hdistinct
    show Always _ _ (settle (a.reconcile live) >>= fun _ => _) _
    rw [Program.always_bind]
    apply (always_settle (a.reconcile live)).mono
    rintro _ t ⟨k', w', hsettled, rfl⟩
    have hkeep : ∀ b ∈ l, k'.alerts.find? b.id = some b := by
      intro b hb
      have hb' := (hstored b (List.mem_cons_of_mem a hb)).1
      cases hsettled with
      | unchanged _ | unwritten _ _ => exact hb'
      | written _ _ _ =>
        have hne : b.id ≠ a.id := fun heq => hdistinct.1 (heq ▸ List.mem_map_of_mem hb)
        show (k.alerts.insert a.id _).find? b.id = some b
        rw [SortedMap.find?_insert, if_neg hne]
        exact hb'
    apply (ih (fun b hb => ⟨hkeep b hb, (hstored b (List.mem_cons_of_mem a hb)).2⟩)
      hdistinct.2).mono
    rintro _ t ⟨k'', w'', rfl, hsteps⟩
    exact ⟨k'', w'', rfl, .head ⟨a, hfound, henabled, hsettled⟩ hsteps⟩

/-- What is kept by each alert that is settled is kept by all of them. -/
theorem inv_of_settling {inv : Contents → Finset (String × String) → Prop}
    {live : List LiveAlert} {s t : Contents × Finset (String × String)}
    (hstep : ∀ {k w k' w'}, inv k w → Settling P live (k, w) (k', w') → inv k' w')
    (hsteps : Relation.ReflTransGen (Settling P live) s t) (hs : inv s.1 s.2) : inv t.1 t.2 := by
  induction hsteps with
  | refl => exact hs
  | tail _ h ih => exact hstep ih h

/-- What may come of a tick: alerts are settled as the live alerts show them, or nothing happens. -/
def Ticked (P : Promise) (k : Contents) (w : Finset (String × String)) (t : Site) : Prop :=
  t = k.site w ∨ ∃ live k' w', P .liveAlerts (k.site w) (.ok live) ∧ t = k'.site w' ∧
    Relation.ReflTransGen (Settling P live) (k, w) (k', w')

/-- A tick settles alerts. -/
theorem always_syncStates :
    Always (Site.answering P) (fun _ t => Ticked P k w t) syncStates.outcome (k.site w) := by
  unfold syncStates
  rw [Operation.always_bind]
  rintro (e | live) t ⟨hlive, rfl⟩
  · exact .inl rfl
  · show Always _ _ (Registry.alerts none >>= fun alerts => _ : Operation Outcome).outcome _
    rw [Operation.always_bind]
    apply Registry.always_alerts
    · intro e
      exact .inl rfl
    · show Always _ _ (Operation.outcome (List.forM _ (fun a : Alert =>
        (ExceptT.lift (settle (a.reconcile live)) : Operation Unit)) >>= fun _ => _)) _
      rw [Operation.forM_lift, Operation.outcome_lift_bind, Program.always_bind]
      apply (always_forM_settle live ?_ ?_).mono
      · rintro _ t ⟨k', w', rfl, hsteps⟩
        exact .inr ⟨live, k', w', hlive, rfl, hsteps⟩
      · intro a ha
        rw [List.mem_filter, Bool.not_eq_true'] at ha
        exact ⟨Contents.mem_alertList.1 ha.1, ha.2⟩
      · exact k.nodup_alertList.sublist (List.filter_sublist.map _)

end Synchronizer

end AlertSync
