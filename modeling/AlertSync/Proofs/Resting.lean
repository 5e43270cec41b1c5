import AlertSync.Proofs.Independence

/-!
# A tick after a tick

What a tick stores of an alert is read back as it was observed, and observing it again among the
same live alerts gives nothing new (`Alert.changed_reconcile_reconcile`). So a tick whose updates
all succeed leaves the objects at rest (`Responder.AtRest`, `atRest_of_settles`), whichever silences
it could not remove; and a tick that finds the objects at rest does nothing but look
(`tick_of_atRest`).
-/

namespace AlertSync

/-- Nothing new is observed of an alert that is as it was just observed. -/
theorem Alert.changed_reconcile_reconcile (a : Alert) (live : List LiveAlert) :
    ((a.reconcile live).alert.reconcile live).changed = false := by
  -- What is observed of an alert depends on its id and environment, which stay.
  have hobserved : (a.reconcile live).alert.observed? live = a.observed? live := rfl
  show (decide (observedState ((a.reconcile live).alert.observed? live) ≠
      observedState (a.observed? live)) ||
    decide (((a.reconcile live).alert.observed? live).bind (·.startsAt) ≠
      (a.observed? live).bind (·.startsAt)) ||
    decide (((a.reconcile live).alert.observed? live).bind (·.endsAt) ≠
      (a.observed? live).bind (·.endsAt))) = false
  rw [hobserved]
  simp

namespace Responder

variable {p q : Responder} {o : Objects}

/-- Whether nothing new is observed of any stored alert that is not disabled. -/
def AtRest (p : Responder) (o : Objects) : Prop :=
  ∀ id payload a, o.alerts.find? id = some payload → Alert.ofPayload payload = .ok a →
    a.isDisabled = false → (a.reconcile p.live).changed = false

/-! ## A tick that finds the objects at rest -/

/-- Settling an alert of which nothing new is observed changes no object. -/
theorem settled_of_unchanged {a : Alert} (h : (a.reconcile p.live).changed = false) :
    p.settled o a = o := by
  unfold settled stores
  rw [h]
  rfl

/-- Settling an alert of which nothing new is observed takes no call. -/
theorem callsFor_of_unchanged {a : Alert} (h : (a.reconcile p.live).changed = false) :
    p.callsFor a = [] := by
  unfold callsFor
  simp only [h, Bool.false_eq_true, if_false]

/-- Settling alerts of which nothing new is observed does nothing. -/
theorem foldl_settled_of_unchanged {alerts : List Alert}
    (h : ∀ a ∈ alerts, (a.reconcile p.live).changed = false) :
    alerts.foldl p.settled o = o ∧ alerts.flatMap p.callsFor = [] := by
  induction alerts with
  | nil => exact ⟨rfl, rfl⟩
  | cons a alerts ih =>
    have ha := h a List.mem_cons_self
    obtain ⟨hobjects, hcalls⟩ := ih fun b hb => h b (List.mem_cons_of_mem a hb)
    rw [List.foldl_cons, settled_of_unchanged ha, List.flatMap_cons, callsFor_of_unchanged ha]
    exact ⟨hobjects, hcalls⟩

/-- A tick that finds the objects at rest leaves them as they are, and does not do more than ask
for the live alerts and for the stored ones. -/
theorem tick_of_atRest (hown : o.OwnIds) (hrest : p.AtRest o) :
    (p.tick o).2.1 = o ∧ ∀ c ∈ (p.tick o).2.2, c = .liveAlerts ∨ c = .list .alert := by
  rw [tick_eq]
  cases p.fault? .liveAlerts with
  | some e => exact ⟨rfl, fun c hc => .inl (List.mem_singleton.1 hc)⟩
  | none =>
    cases hread : attempt (p.fault? (.list .alert)) (Shelf.alerts.readAll o) with
    | error e => exact ⟨rfl, by simp⟩
    | ok alerts =>
      have hread' : Shelf.alerts.readAll o = .ok alerts := by
        unfold attempt at hread
        split at hread
        · nomatch hread
        · exact hread
      have hstored := hown.contains_of_mem_filter hread' fun a => !a.isDisabled
      have hunchanged : ∀ a ∈ alerts.filter fun a => !a.isDisabled,
          (a.reconcile p.live).changed = false := by
        intro a ha
        obtain ⟨hmem, henabled⟩ := List.mem_filter.1 ha
        obtain ⟨payload, hfind, hpayload⟩ := hown.find?_of_mem hread' hmem
        exact hrest a.id payload a hfind hpayload (Bool.not_eq_true' _ ▸ henabled)
      obtain ⟨hobjects, hcalls⟩ := foldl_settled_of_unchanged (o := o) hunchanged
      dsimp only
      rw [run_forM_settle hstored, hobjects, hcalls]
      exact ⟨rfl, by simp⟩

/-! ## What a tick leaves -/

variable {alerts : List Alert} {o' : Objects} {calls : List Call}

/-- A stored alert was listed before the tick that left it: it is as it was observed, or nothing new
was observed of it, or it is disabled. -/
theorem Settles.origin (h : p.Settles o alerts o' calls)
    (hstored : ∀ c ∈ calls, c.writesStore = true → p.fault? c = none)
    {id payload : String} (hfind : o'.alerts.find? id = some payload) :
    ∃ a ∈ alerts, a.id = id ∧ (Alert.ofPayload payload = .ok (a.reconcile p.live).alert ∨
      Alert.ofPayload payload = .ok a ∧
        (a.isDisabled = true ∨ (a.reconcile p.live).changed = false)) := by
  obtain ⟨former, hformer⟩ : ∃ former, o.alerts.find? id = some former := by
    have hsame := h.same id
    rw [SortedMap.contains_eq_isSome, SortedMap.contains_eq_isSome, hfind] at hsame
    exact Option.isSome_iff_exists.1 hsame.symm
  obtain ⟨a, ha, rfl, hread⟩ := h.listed id former hformer
  refine ⟨a, ha, rfl, ?_⟩
  by_cases hkept : a.isDisabled = true ∨ (a.reconcile p.live).changed = false
  · -- Its payload was not touched.
    have hsame := h.kept a ha (hkept.imp_right .inl)
    rw [hfind, hformer] at hsame
    rw [Option.some.inj hsame]
    exact .inr ⟨hread, hkept⟩
  · rw [not_or, Bool.not_eq_true, Bool.not_eq_false] at hkept
    obtain ⟨henabled, hchanged⟩ := hkept
    have hcall : p.storing a ∈ calls.filter Call.writesStore := by
      rw [h.stored]
      apply List.mem_map_of_mem
      rw [List.mem_filter, henabled, hchanged]
      exact ⟨ha, rfl⟩
    have hfault := hstored _ (List.mem_of_mem_filter hcall) rfl
    obtain ⟨payload', hfind', hread'⟩ := h.observed a ha henabled hfault
    rw [hfind] at hfind'
    rw [Option.some.inj hfind']
    exact .inl hread'

/-- A tick whose updates succeed leaves alerts under their own ids. -/
theorem Settles.ownIds (h : p.Settles o alerts o' calls)
    (hstored : ∀ c ∈ calls, c.writesStore = true → p.fault? c = none) : o'.OwnIds := by
  intro id payload a hfind hread
  obtain ⟨b, -, hid, hread' | ⟨hread', -⟩⟩ := h.origin hstored hfind
  · rw [hread] at hread'
    rw [Except.ok.inj hread']
    exact hid
  · rw [hread] at hread'
    rw [Except.ok.inj hread']
    exact hid

/-- A tick whose updates succeed leaves the objects at rest. -/
theorem atRest_of_settles (h : p.Settles o alerts o' calls)
    (hstored : ∀ c ∈ calls, c.writesStore = true → p.fault? c = none) (hlive : q.live = p.live) :
    q.AtRest o' := by
  intro id payload a hfind hread henabled
  rw [hlive]
  obtain ⟨b, -, -, hread' | ⟨hread', hkept⟩⟩ := h.origin hstored hfind
  · rw [hread] at hread'
    rw [Except.ok.inj hread']
    exact b.changed_reconcile_reconcile p.live
  · rw [hread] at hread'
    obtain rfl := Except.ok.inj hread'
    rw [henabled] at hkept
    exact hkept.resolve_left nofun

/-- A tick is done only if it obtained both lists. -/
theorem settles_of_done (hown : o.OwnIds) (hdone : (p.tick o).1 = .ok .done) :
    ∃ alerts, p.Settles o alerts (p.tick o).2.1 (p.tick o).2.2 := by
  rw [tick_eq] at hdone
  cases hlive : p.fault? .liveAlerts with
  | some e =>
    rw [hlive] at hdone
    nomatch hdone
  | none =>
    cases hlist : p.fault? (.list .alert) with
    | some e =>
      rw [hlive, hlist] at hdone
      nomatch hdone
    | none =>
      cases hread : Shelf.alerts.readAll o with
      | error e =>
        rw [hlive, hlist, hread] at hdone
        nomatch hdone
      | ok alerts => exact ⟨alerts, (settles_of_readAll hown hlive hlist hread).2⟩

/-- Where every stored alert can be read, all of them can. -/
theorem exists_readAll_of_readable
    (h : ∀ id payload, o.alerts.find? id = some payload → ∃ a, Alert.ofPayload payload = .ok a) :
    ∃ alerts, Shelf.alerts.readAll o = .ok alerts := by
  have hread : ∀ objects : List StoredObject,
      (∀ object ∈ objects, ∃ a, Alert.ofPayload object.payload = .ok a) →
      ∃ alerts, objects.mapM (fun object => Alert.ofPayload object.payload) = .ok alerts := by
    intro objects hobjects
    induction objects with
    | nil => exact ⟨[], rfl⟩
    | cons object objects ih =>
      obtain ⟨a, ha⟩ := hobjects object List.mem_cons_self
      obtain ⟨alerts, halerts⟩ := ih fun other hother => hobjects other (.tail _ hother)
      refine ⟨a :: alerts, ?_⟩
      rw [List.mapM_cons, ha, halerts]
      rfl
  apply hread
  intro object hobject
  obtain ⟨e, he, rfl⟩ := List.mem_map.1 hobject
  exact h e.1 e.2 (SortedMap.mem_entries_iff.1 he)

/-- After a tick that obtained both lists and whose updates all succeeded, another tick against the
same live alerts changes no object and makes no call but those that ask for the two lists; so it
removes no silence and counts no transition. It is done if it obtains the lists. -/
theorem tick_idle_of_done (p q : Responder) {o : Objects} (hown : o.OwnIds)
    (hlive : q.live = p.live) (hdone : (p.tick o).1 = .ok .done)
    (hstored : ∀ c ∈ (p.tick o).2.2, c.writesStore = true → p.fault? c = none) :
    (q.tick (p.tick o).2.1).2.1 = (p.tick o).2.1 ∧
    (∀ c ∈ (q.tick (p.tick o).2.1).2.2, c = .liveAlerts ∨ c = .list .alert) ∧
    (q.fault? .liveAlerts = none → q.fault? (.list .alert) = none →
      (q.tick (p.tick o).2.1).1 = .ok .done) := by
  obtain ⟨alerts, hsettles⟩ := settles_of_done hown hdone
  have hown' := hsettles.ownIds hstored
  obtain ⟨hobjects, hcalls⟩ := tick_of_atRest hown' (atRest_of_settles hsettles hstored hlive)
  refine ⟨hobjects, hcalls, ?_⟩
  intro hfault hfault'
  obtain ⟨alerts', hread⟩ : ∃ alerts', Shelf.alerts.readAll (p.tick o).2.1 = .ok alerts' := by
    apply exists_readAll_of_readable
    intro id payload hfind
    obtain ⟨a, -, -, hread | ⟨hread, -⟩⟩ := hsettles.origin hstored hfind
    · exact ⟨_, hread⟩
    · exact ⟨_, hread⟩
  exact (settles_of_readAll hown' hfault hfault' hread).1

/-- The state of a suppressed alert was taken over although its silence could not be removed; the
next tick has nothing to do. -/
theorem tick_idle_of_done_unsilenceable :
    (unsilenceable.tick suppressedObjects).1 = .ok .done ∧
    unsilenceable.fault? (.removeSilence (.sample "a1" "e1" "r1" .enabled)) ≠ none ∧
    (unsilenceable.tick (unsilenceable.tick suppressedObjects).2.1).1 = .ok .done ∧
    (unsilenceable.tick (unsilenceable.tick suppressedObjects).2.1).2.1 =
      (unsilenceable.tick suppressedObjects).2.1 := by
  have hown : suppressedObjects.OwnIds := Contents.ownIds_objects _
  have hread : Shelf.alerts.readAll suppressedObjects =
      .ok [.sample "a1" "e1" "r1" .suppressed] := by
    unfold suppressedObjects
    rw [Shelf.readAll_objects]
    rfl
  have hdone := (settles_of_readAll (p := unsilenceable) hown rfl rfl hread).1
  have hstored : ∀ c ∈ (unsilenceable.tick suppressedObjects).2.2, c.writesStore = true →
      unsilenceable.fault? c = none := by
    intro c _ hwrites
    cases c <;> first | rfl | nomatch hwrites
  obtain ⟨hobjects, -, hdone'⟩ :=
    unsilenceable.tick_idle_of_done unsilenceable hown rfl hdone hstored
  exact ⟨hdone, nofun, hdone' rfl rfl, hobjects⟩

end Responder

end AlertSync
