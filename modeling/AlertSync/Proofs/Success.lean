import AlertSync.Proofs.Sample
import AlertSync.Proofs.Task

/-!
# Tasks that succeed

`Request.always_operation` says what can at most come of a request. Here is the other side: under a
promise that lets calls succeed (`Promise.Permissive`), requests for which nothing speaks do have
runs in which they succeed, and so does a tick. So the sites that are `Reached` are not only the
empty one.
-/

namespace AlertSync

open Program (Runs)

/-- Whether a promise lets the calls to the store and to the silences succeed. -/
structure Promise.Permissive (P : Promise) : Prop where
  list : ∀ kind s x, P (.list kind) s x
  get : ∀ kind id s x, P (.get kind id) s x
  create : ∀ kind id payload s x, P (.create kind id payload) s x
  update : ∀ kind id payload s x, P (.update kind id payload) s x
  delete : ∀ kind id s x, P (.delete kind id) s x
  notify : ∀ topic s x, P (.notify topic) s x
  count : ∀ counter s x, P (.count counter) s x
  addSilence : ∀ a s, P (.addSilence a) s (.ok ())
  removeSilence : ∀ a s, P (.removeSilence a) s (.ok ())

/-- A promise of nothing lets everything succeed. -/
theorem Promise.permissive_none : Promise.none.Permissive := by
  constructor <;> exact fun _ => by intros; trivial

variable {P : Promise} {k : Contents} {w : Finset (String × String)}

/-- Whether what some contents hold can be read in a state. -/
structure Readable {σ : Type} (R : Answering σ) (s : σ) (k : Contents) : Prop where
  get : ∀ kind id, R (.get kind id) s (.ok (k.objects.get? kind id)) s
  list : ∀ kind, R (.list kind) s (.ok (k.objects.list kind)) s

/-- Where calls to the store may succeed, the contents can be read. -/
theorem Promise.Permissive.readable (hP : P.Permissive) (k : Contents)
    (w : Finset (String × String)) : Readable (Site.answering P) (k.site w) k where
  get kind id := ⟨hP.get kind id _ _, rfl, .inl rfl⟩
  list kind := ⟨hP.list kind _ _, rfl, .inl rfl⟩

namespace Readable

variable {σ : Type} {R : Answering σ} {s : σ}

/-- A value that is stored can be looked up. -/
theorem runs_lookup {α : Type} (h : Readable R s k) (f : Shelf α) {id : String} {a : α}
    (hfound : (f.values k).find? id = some a) : (f.lookup id).outcome.Runs R s (.ok a) s := by
  have hget : k.objects.get? f.kind id = some ⟨f.kind, id, f.encode a⟩ := by
    rw [f.get?_objects, hfound]
    rfl
  have hpayload : (Registry.payload f.kind id).outcome.Runs R s (.ok (f.encode a)) s := by
    refine ⟨_, s, h.get f.kind id, ?_⟩
    rw [hget]
    exact ⟨rfl, rfl⟩
  apply Operation.runs_bind hpayload
  rw [f.decode_encode]
  exact ⟨rfl, rfl⟩

/-- All values can be listed. -/
theorem runs_listing {α : Type} (h : Readable R s k) (f : Shelf α) :
    f.listing.outcome.Runs R s (.ok ((f.values k).entries.map (·.2))) s := by
  refine ⟨_, s, h.list f.kind, ?_⟩
  show Runs _ (Operation.outcome (Operation.ofExcept _ >>= _)) _ _ _
  rw [f.mapM_list]
  refine ⟨?_, rfl⟩
  show Except.ok _ = .ok (((f.values k).entries.map (·.2)).filter fun _ => true)
  rw [List.filter_true]

/-- An alert that is stored can be looked up. -/
theorem runs_alert (h : Readable R s k) {id : String} {a : Alert}
    (hfound : k.alerts.find? id = some a) : (Registry.alert id).outcome.Runs R s (.ok a) s := by
  rw [← Shelf.lookup_alerts]
  exact h.runs_lookup .alerts hfound

/-- A recipient that is stored can be looked up. -/
theorem runs_recipient (h : Readable R s k) {id : String} {r : Recipient}
    (hfound : k.recipients.find? id = some r) :
    (Registry.recipient id).outcome.Runs R s (.ok r) s := by
  rw [← Shelf.lookup_recipients]
  exact h.runs_lookup .recipients hfound

/-- All alerts can be listed. -/
theorem runs_alerts (h : Readable R s k) :
    (Registry.alerts none).outcome.Runs R s (.ok k.alertList) s := by
  rw [← Shelf.listing_alerts]
  exact h.runs_listing .alerts

/-- All recipients can be listed. -/
theorem runs_recipients (h : Readable R s k) :
    (Registry.recipients none).outcome.Runs R s (.ok k.recipientList) s := by
  rw [← Shelf.listing_recipients]
  exact h.runs_listing .recipients

/-- The notification settings can be looked up. -/
theorem runs_alertConfig (h : Readable R s k) :
    Registry.alertConfig.outcome.Runs R s (.ok k.settings) s := by
  refine ⟨_, s, h.get .alertConfig Registry.settingsId, ?_⟩
  rw [Contents.get?_settings]
  cases k.settings with
  | none => exact ⟨rfl, rfl⟩
  | some c =>
    refine ⟨?_, rfl⟩
    show _ = (AlertConfig.ofPayload c.payload).map some
    rw [AlertConfig.ofPayload_payload]
    rfl

/-- The routing tree can be generated from all that is stored. -/
theorem runs_buildRoutes (h : Readable R s k) : Synchronizer.buildRoutes.outcome.Runs R s
    (.ok (.build k.settings k.alertList k.recipientList)) s := by
  unfold Synchronizer.buildRoutes
  apply Operation.runs_bind h.runs_alertConfig
  apply Operation.runs_bind h.runs_alerts
  exact Operation.runs_bind h.runs_recipients ⟨rfl, rfl⟩

end Readable

namespace Request

/-- A stored recipient meets a requirement. -/
theorem runs_requireRecipient (hP : P.Permissive) {id : String} {r : Recipient}
    (hfound : k.recipients.find? id = some r) :
    (Lifecycle.requireRecipient id).outcome.Runs (Site.answering P) (k.site w) (.ok ())
      (k.site w) := by
  unfold Lifecycle.requireRecipient
  rw [Operation.outcome_lift_bind]
  exact Program.runs_bind ((hP.readable k w).runs_recipient hfound) ⟨rfl, rfl⟩

/-- A change that the store admits can be made. -/
theorem runs_write (hP : P.Permissive) {e : Edit} (hadmitted : e.Admitted k) :
    e.write.outcome.Runs (Site.answering P) (k.site w) (.ok ()) ((e.apply k).site w) := by
  have hwrites : (k.site w).Writes (e.change k.objects) (.ok ()) ((e.apply k).site w) :=
    .inl ⟨_, e.change_eq_ok.2 ⟨hadmitted, rfl⟩, rfl, rfl⟩
  cases e with
  | create x => exact ⟨.ok (), _, ⟨hP.create _ _ _ _ _, hwrites⟩, rfl, rfl⟩
  | update x => exact ⟨.ok (), _, ⟨hP.update _ _ _ _ _, hwrites⟩, rfl, rfl⟩
  | deleteAlert id => exact ⟨.ok (), _, ⟨hP.delete _ _ _ _, hwrites⟩, rfl, rfl⟩
  | deleteRecipient id => exact ⟨.ok (), _, ⟨hP.delete _ _ _ _, hwrites⟩, rfl, rfl⟩

/-- Notifying succeeds and changes nothing. -/
theorem runs_notify (hP : P.Permissive) (topics : List Topic) (s : Site) :
    (Operation.outcome (topics.forM Operation.notify)).Runs (Site.answering P) s (.ok ()) s := by
  induction topics with
  | nil => exact ⟨rfl, rfl⟩
  | cons topic topics ih =>
    show Runs _ (Operation.outcome (Operation.notify topic >>= fun _ => _)) _ _ _
    exact Operation.runs_bind ⟨(), s, ⟨hP.notify topic s (), rfl⟩, rfl, rfl⟩ ih

/-- A request succeeds that comes to a draft which the store admits. -/
theorem runs_operation (hP : P.Permissive) {q : Request} {d : Draft}
    {w' : Finset (String × String)}
    (hdraft : q.draft.outcome.Runs (Site.answering P) (k.site w) (.ok d) (k.site w'))
    (hadmitted : d.edit.Admitted k) :
    q.operation.outcome.Runs (Site.answering P) (k.site w) (.ok ()) ((d.edit.apply k).site w') := by
  rw [operation_eq]
  apply Operation.runs_bind hdraft
  unfold Draft.perform
  exact Operation.runs_bind (runs_write hP hadmitted) (runs_notify hP d.topics _)

/-- A recipient that is valid can be created. -/
theorem runs_draft_createRecipient {r : Recipient} {id : String} (hvalid : r.validate = .ok ())
    (hid : P .freshId (k.site w) id) :
    (draft (.createRecipient r)).outcome.Runs (Site.answering P) (k.site w)
      (.ok ⟨.create (.recipient { r with id := id }), [.alertChanged]⟩) (k.site w) := by
  rw [draft, hvalid]
  exact ⟨id, k.site w, ⟨hid, rfl⟩, rfl, rfl⟩

/-- An alert that is valid can be created, if its recipient is stored. -/
theorem runs_draft_createAlert (hP : P.Permissive) {a : Alert} {r : Recipient} {id : String}
    (hvalid : a.validate = .ok ()) (hrecipient : k.recipients.find? a.recipientId = some r)
    (hid : P .freshId (k.site w) id) :
    (draft (.createAlert a)).outcome.Runs (Site.answering P) (k.site w)
      (.ok ⟨.create (.alert
        { a with id := id, state := .enabled, startsAt := none, endsAt := none }),
        [.alertChanged, .metricsChanged]⟩) (k.site w) := by
  rw [draft, hvalid]
  show Runs _ (Operation.outcome (Lifecycle.requireRecipient a.recipientId >>= fun _ => _)) _ _ _
  apply Operation.runs_bind (runs_requireRecipient hP hrecipient)
  exact ⟨id, k.site w, ⟨hid, rfl⟩, rfl, rfl⟩

/-- An alert that is stored can be updated with a valid one, if the recipient of that is stored. -/
theorem runs_draft_updateAlert (hP : P.Permissive) {id : String} {a current : Alert}
    {r : Recipient} (hfound : k.alerts.find? id = some current) (hvalid : a.validate = .ok ())
    (hrecipient : k.recipients.find? a.recipientId = some r) :
    (draft (.updateAlert id a)).outcome.Runs (Site.answering P) (k.site w)
      (.ok ⟨.update (.alert
        { a with
          id := current.id
          state := current.state
          startsAt := current.startsAt
          endsAt := current.endsAt }),
        [.alertChanged, .metricsChanged]⟩) (k.site w) := by
  rw [draft]
  apply Operation.runs_bind ((hP.readable k w).runs_alert hfound)
  rw [hvalid]
  show Runs _ (Operation.outcome (Lifecycle.requireRecipient a.recipientId >>= fun _ => _)) _ _ _
  apply Operation.runs_bind (runs_requireRecipient hP hrecipient)
  exact ⟨rfl, rfl⟩

/-- An alert that is active can be silenced. -/
theorem runs_draft_silence (hP : P.Permissive) {id : String} {a : Alert}
    (hfound : k.alerts.find? id = some a) (hstate : a.state = .active) :
    (draft (.act .silence id)).outcome.Runs (Site.answering P) (k.site w)
      (.ok ⟨.update (.alert { a with state := .suppressed }), []⟩)
      (k.site (insert a.silence w)) := by
  rw [draft]
  apply Operation.runs_bind ((hP.readable k w).runs_alert hfound)
  simp only [AlertAction.source, hstate, ne_eq, not_true_eq_false, if_false]
  exact ⟨.ok (), _, ⟨hP.addSilence a _, .inl ⟨rfl, rfl⟩⟩, rfl, rfl⟩

/-- An alert that is enabled can be disabled. -/
theorem runs_draft_disable (hP : P.Permissive) {id : String} {a : Alert}
    (hfound : k.alerts.find? id = some a) (hstate : a.state = .enabled) :
    (draft (.act .disable id)).outcome.Runs (Site.answering P) (k.site w)
      (.ok ⟨.update (.alert { a with state := .disabled }), [.alertChanged, .metricsChanged]⟩)
      (k.site w) := by
  rw [draft]
  apply Operation.runs_bind ((hP.readable k w).runs_alert hfound)
  simp only [AlertAction.source, hstate, ne_eq, not_true_eq_false, if_false]
  exact ⟨rfl, rfl⟩

/-- An alert that is disabled can be deleted. -/
theorem runs_draft_deleteAlert (hP : P.Permissive) {id : String} {a : Alert}
    (hfound : k.alerts.find? id = some a) (hstate : a.state = .disabled) :
    (draft (.deleteAlert id)).outcome.Runs (Site.answering P) (k.site w)
      (.ok ⟨.deleteAlert id, [.alertChanged, .metricsChanged]⟩) (k.site w) := by
  rw [draft]
  apply Operation.runs_bind ((hP.readable k w).runs_alert hfound)
  simp only [hstate, ne_eq, not_true_eq_false, if_false]
  exact ⟨rfl, rfl⟩

end Request

/-- A tick takes over the state of the only alert, if its silence is not to be removed. -/
theorem Task.runs_tick (hP : P.Permissive) {a : Alert} {live : List LiveAlert}
    (hlive : P .liveAlerts (k.site w) (.ok live)) (honly : k.alertList = [a])
    (henabled : a.isDisabled = false) (hchanged : (a.reconcile live).changed = true)
    (hsilence : (a.reconcile live).removeSilence = false) :
    Task.tick.program.Runs (Site.answering P) (k.site w) (.ok ())
      ((k.put (.alert (a.reconcile live).alert)).site w) := by
  have hfound : k.alerts.find? a.id = some a := by
    rw [← Contents.mem_alertList, honly]
    exact List.mem_singleton_self a
  have htaken : (Edit.update (.alert (a.reconcile live).alert)).Admitted k := by
    show ((k.alerts.map Alert.payload).contains a.id) = true
    rw [SortedMap.contains_eq_isSome, SortedMap.find?_map, hfound]
    rfl
  have hsettle : (Synchronizer.settle (a.reconcile live)).Runs (Site.answering P) (k.site w) ()
      ((k.put (.alert (a.reconcile live).alert)).site w) := by
    have hwrite : ((Registry.updateAlert (a.reconcile live).alert).outcome >>= fun _ =>
        pure ()).Runs (Site.answering P) (k.site w) ()
          ((k.put (.alert (a.reconcile live).alert)).site w) :=
      Program.runs_bind (Request.runs_write hP htaken) ⟨rfl, rfl⟩
    unfold Synchronizer.settle
    rw [if_pos hchanged]
    simp only [hsilence]
    split
    · exact ⟨(), k.site w, ⟨hP.count _ _ _, rfl⟩, hwrite⟩
    · exact hwrite
  show Runs _ (Operation.outcome (Synchronizer.syncStates >>= fun _ => pure ())) _ _ _
  refine Operation.runs_bind (a := Outcome.done) ?_ ⟨rfl, rfl⟩
  refine ⟨.ok live, k.site w, ⟨hlive, rfl⟩, ?_⟩
  show Runs _ (Operation.outcome (Registry.alerts none >>= fun _ => _)) _ _ _
  apply Operation.runs_bind (hP.readable k w).runs_alerts
  -- The only alert is settled, and there is no other.
  have hlist : k.alertList.filter (fun a => !a.isDisabled) = [a] := by
    rw [honly, List.filter_singleton, henabled]
    rfl
  rw [hlist]
  show Runs _ (Operation.outcome (List.forM [a] (fun a : Alert =>
    (ExceptT.lift (Synchronizer.settle (a.reconcile live)) : Operation Unit)) >>= fun _ => _)) _ _ _
  rw [Operation.forM_lift, Operation.outcome_lift_bind]
  exact Program.runs_bind (Program.runs_bind hsettle ⟨rfl, rfl⟩) ⟨rfl, rfl⟩

/-! ## Contents to speak of -/

/-- An alert and its recipient. -/
def Contents.sample (a : Alert) : Contents :=
  (Contents.empty.put (.recipient (.sample a.recipientId))).put (.alert a)

/-- The alert is found under its id. -/
theorem Contents.find?_sample (a : Alert) : (sample a).alerts.find? a.id = some a := by
  show (SortedMap.empty.insert a.id a).find? a.id = _
  rw [SortedMap.find?_insert, if_pos rfl]

/-- The recipient is found under its id. -/
theorem Contents.find?_recipient_sample (a : Alert) :
    (sample a).recipients.find? a.recipientId = some (.sample a.recipientId) := by
  show (SortedMap.empty.insert a.recipientId _).find? a.recipientId = _
  rw [SortedMap.find?_insert, if_pos rfl]

/-- An alert takes the place of another with the same id and recipient. -/
theorem Contents.put_sample {a b : Alert} (hid : b.id = a.id)
    (hrecipient : b.recipientId = a.recipientId) : (sample a).put (.alert b) = sample b := by
  apply Contents.ext
  · show (SortedMap.empty.insert a.id a).insert b.id b = SortedMap.empty.insert b.id b
    rw [hid, SortedMap.insert_insert]
  · show SortedMap.empty.insert a.recipientId (Recipient.sample a.recipientId) =
      SortedMap.empty.insert b.recipientId (Recipient.sample b.recipientId)
    rw [hrecipient]
  · rfl

variable {alertId recipientId : String}

/-- A recipient can be created. -/
theorem Task.runs_createRecipient_sample (hP : P.Permissive)
    (hid : P .freshId .empty recipientId) :
    (Task.request (.createRecipient (.sample ""))).program.Runs (Site.answering P) .empty (.ok ())
      ((Contents.empty.put (.recipient (.sample recipientId))).site ∅) := by
  have hvalid : (Recipient.sample "").validate = .ok () := by decide
  exact Request.runs_operation (k := .empty) (w := ∅) hP
    (Request.runs_draft_createRecipient hvalid hid) rfl

/-- An alert of this recipient can be created. -/
theorem Task.runs_createAlert_sample (hP : P.Permissive) (hid : ∀ s, P .freshId s alertId)
    (hnonempty : recipientId ≠ "") :
    (Task.request (.createAlert (.sample "" "e1" recipientId .enabled))).program.Runs
      (Site.answering P) ((Contents.empty.put (.recipient (.sample recipientId))).site ∅) (.ok ())
      ((Contents.sample (.sample alertId "e1" recipientId .enabled)).site ∅) := by
  have hvalid : (Alert.sample "" "e1" recipientId .enabled).validate = .ok () := by
    simp [Alert.validate, Alert.sample, firstInvalid, hnonempty]
  have hstored : (Contents.empty.put (.recipient (.sample recipientId))).recipients.find?
      recipientId = some (.sample recipientId) :=
    Contents.find?_recipient_sample (.sample alertId "e1" recipientId .enabled)
  exact Request.runs_operation hP (Request.runs_draft_createAlert hP hvalid hstored (hid _)) rfl

/-- A recipient and an alert of it can be created. -/
theorem reached_sample (hP : P.Permissive) (halert : ∀ s, P .freshId s alertId)
    (hrecipient : P .freshId .empty recipientId) (hnonempty : recipientId ≠ "") :
    Reached P ((Contents.sample (.sample alertId "e1" recipientId .enabled)).site ∅) :=
  .task _ _ (.task _ _ .empty (Task.runs_createRecipient_sample hP hrecipient))
    (Task.runs_createAlert_sample hP halert hnonempty)

end AlertSync
