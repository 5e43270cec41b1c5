import AlertSync.Lifecycle
import AlertSync.Proofs.Registry

/-!
# Requests of users

A `Request` is an operation of a user with its arguments. Every one of them goes the same way: it
looks at the store and decides on one change, the `Draft`; then it makes the change and notifies
(`operation_eq`). What the draft can be is said once for each request (`Request.Yields`), in terms
of the contents of the store, and so is what comes of the whole operation (`always_operation`): it
succeeds and has made the change of its draft, or it fails and has left the store alone.
-/

namespace AlertSync

open Program (Always)

/-- A change of one stored object. -/
inductive Edit
  | create (x : Resource)
  | update (x : Resource)
  | deleteAlert (id : String)
  | deleteRecipient (id : String)

namespace Edit

/-- Makes a change in the store. -/
def write : Edit → Operation Unit
  | create x => .ofProgram (.ask (.create x.kind x.key x.encode))
  | update x => .ofProgram (.ask (.update x.kind x.key x.encode))
  | deleteAlert id => .ofProgram (.ask (.delete .alert id))
  | deleteRecipient id => .ofProgram (.ask (.delete .recipient id))

/-- Whether the store makes a change: a new object needs a free key, any other change a taken
one. -/
def Admitted (k : Contents) : Edit → Prop
  | create x => (k.objects.shelf x.kind).contains x.key = false
  | update x => (k.objects.shelf x.kind).contains x.key = true
  | deleteAlert id => (k.objects.shelf .alert).contains id = true
  | deleteRecipient id => (k.objects.shelf .recipient).contains id = true

/-- The contents after a change. -/
def apply (k : Contents) : Edit → Contents
  | create x | update x => k.put x
  | deleteAlert id => k.eraseAlert id
  | deleteRecipient id => k.eraseRecipient id

/-- What the store makes of a change. -/
def change (o : Objects) : Edit → Except Error Objects
  | create x => o.create x.kind x.key x.encode
  | update x => o.update x.kind x.key x.encode
  | deleteAlert id => o.delete .alert id
  | deleteRecipient id => o.delete .recipient id

/-- The store makes the changes that it admits, and no others. -/
theorem change_eq_ok {k : Contents} {o : Objects} (e : Edit) :
    e.change k.objects = .ok o ↔ e.Admitted k ∧ o = (e.apply k).objects := by
  cases e with
  | create x =>
    rw [change, Objects.create, Admitted, apply, Contents.objects_put]
    cases (k.objects.shelf x.kind).contains x.key <;> simp [eq_comm]
  | update x =>
    rw [change, Objects.update, Admitted, apply, Contents.objects_put]
    cases (k.objects.shelf x.kind).contains x.key <;> simp [eq_comm]
  | deleteAlert id =>
    rw [change, Objects.delete, Admitted, apply, Contents.objects_eraseAlert]
    cases (k.objects.shelf .alert).contains id <;> simp [eq_comm]
  | deleteRecipient id =>
    rw [change, Objects.delete, Admitted, apply, Contents.objects_eraseRecipient]
    cases (k.objects.shelf .recipient).contains id <;> simp [eq_comm]

/-- A change is made, if the store admits it, or fails. -/
theorem always_write {P : Promise} {k : Contents} {w : Finset (String × String)} (e : Edit)
    {post : Except Error Unit → Site → Prop} (hfail : ∀ err, post (.error err) (k.site w))
    (hok : e.Admitted k → post (.ok ()) ((e.apply k).site w)) :
    Always (Site.answering P) post e.write.outcome (k.site w) := by
  have hwrites : ∀ r t, (k.site w).Writes (e.change k.objects) r t → post r t := by
    rintro r t (⟨o, hchange, rfl, rfl⟩ | ⟨err, rfl, rfl⟩)
    · obtain ⟨hadmitted, rfl⟩ := e.change_eq_ok.1 hchange
      exact hok hadmitted
    · exact hfail err
  cases e with
  | create _ | update _ | deleteAlert _ | deleteRecipient _ =>
    rintro r t ⟨-, h⟩
    exact hwrites r t h

end Edit

/-- A change that was decided on, and whom it concerns. -/
structure Draft where
  edit : Edit
  topics : List Topic

namespace Draft

/-- Makes the change, and then notifies. -/
def perform (d : Draft) : Operation Unit := do
  d.edit.write
  d.topics.forM Operation.notify

/-- To notify cannot fail. -/
theorem forM_notify (topics : List Topic) : topics.forM Operation.notify =
    ExceptT.lift (topics.forM fun topic => (Program.ask (.notify topic) : Program Unit)) :=
  Operation.forM_lift _ _

/-- A draft is performed as its change is made. -/
theorem always_perform {P : Promise} {k : Contents} {w : Finset (String × String)} (d : Draft)
    {post : Except Error Unit → Site → Prop} (hfail : ∀ err, post (.error err) (k.site w))
    (hok : d.edit.Admitted k → post (.ok ()) ((d.edit.apply k).site w)) :
    Always (Site.answering P) post d.perform.outcome (k.site w) := by
  unfold perform
  rw [forM_notify, Operation.always_bind]
  apply d.edit.always_write
  · exact hfail
  · intro hadmitted
    have hquiet : Always (Site.answering P) (fun _ t => t = (d.edit.apply k).site w)
        (d.topics.forM fun topic => (Program.ask (.notify topic) : Program Unit))
        ((d.edit.apply k).site w) := by
      refine Program.always_forM ?_ rfl
      rintro topic - t rfl x u ⟨-, rfl⟩
      rfl
    apply Operation.always_lift.2
    apply hquiet.mono
    rintro _ t rfl
    exact hok hadmitted

end Draft

/-- An operation of a user. -/
inductive Request
  | createAlert (a : Alert)
  | updateAlert (id : String) (a : Alert)
  | act (action : AlertAction) (id : String)
  | deleteAlert (id : String)
  | createRecipient (r : Recipient)
  | updateRecipient (id : String) (r : Recipient)
  | deleteRecipient (id : String)
  | saveAlertConfig (c : AlertConfig)

/-- The topics that an action on an alert concerns. -/
def AlertAction.topics : AlertAction → List Topic
  | enable | disable => [.alertChanged, .metricsChanged]
  | silence | unsilence => []

namespace Request

/-- The operation that a request stands for, without the object that it results in. -/
def operation : Request → Operation Unit
  | createAlert a => (fun _ => ()) <$> Lifecycle.createAlert a
  | updateAlert id a => (fun _ => ()) <$> Lifecycle.updateAlert id a
  | act action id => (fun _ => ()) <$> Lifecycle.act action id
  | deleteAlert id => (fun _ => ()) <$> Lifecycle.deleteAlert id
  | createRecipient r => (fun _ => ()) <$> Lifecycle.createRecipient r
  | updateRecipient id r => (fun _ => ()) <$> Lifecycle.updateRecipient id r
  | deleteRecipient id => (fun _ => ()) <$> Lifecycle.deleteRecipient id
  | saveAlertConfig c => (fun _ => ()) <$> Lifecycle.saveAlertConfig c

/-- What a request does before it writes: it decides on a change. -/
def draft : Request → Operation Draft
  | createAlert a => do
    Operation.ofExcept a.validate
    Lifecycle.requireRecipient a.recipientId
    let id ← .freshId
    let created := { a with id := id, state := .enabled, startsAt := none, endsAt := none }
    return ⟨.create (.alert created), [.alertChanged, .metricsChanged]⟩
  | updateAlert id a => do
    let current ← Registry.alert id
    Operation.ofExcept a.validate
    Lifecycle.requireRecipient a.recipientId
    let updated :=
      { a with
        id := current.id
        state := current.state
        startsAt := current.startsAt
        endsAt := current.endsAt }
    return ⟨.update (.alert updated), [.alertChanged, .metricsChanged]⟩
  | act action id => do
    let a ← Registry.alert id
    if a.state ≠ action.source then throw (.refused a.id a.state action)
    Lifecycle.prepare a action
    return ⟨.update (.alert { a with state := action.target }), action.topics⟩
  | deleteAlert id => do
    let a ← Registry.alert id
    if a.state ≠ .disabled then throw .notDisabled
    return ⟨.deleteAlert id, [.alertChanged, .metricsChanged]⟩
  | createRecipient r => do
    Operation.ofExcept r.validate
    let id ← .freshId
    return ⟨.create (.recipient { r with id := id }), [.alertChanged]⟩
  | updateRecipient id r => do
    let _ ← Registry.recipient id
    Operation.ofExcept r.validate
    return ⟨.update (.recipient { r with id := id }), [.alertChanged]⟩
  | deleteRecipient id => do
    let _ ← Registry.recipient id
    if (← Registry.alerts none).any fun a => a.recipientId == id then
      throw (.invalid (.recipientInUse id))
    return ⟨.deleteRecipient id, [.alertChanged]⟩
  | saveAlertConfig c => do
    if c.resolveTimeout ≠ "" then
      let _ ← Operation.ofExcept (Duration.parse c.resolveTimeout)
    let former ← Registry.alertConfig
    let id ← Registry.settingsOwnId c former
    let saved := { c with id := id }
    return ⟨if former.isSome then .update (.alertConfig saved) else .create (.alertConfig saved),
      [.alertChanged]⟩

/-- A request decides on a change, and makes it. -/
theorem operation_eq (q : Request) : q.operation = q.draft >>= Draft.perform := by
  cases q with
  | createAlert a =>
    simp [operation, draft, Lifecycle.createAlert, Registry.createAlert, Lifecycle.alertsChanged,
      Draft.perform, Edit.write]
    rfl
  | updateAlert id a =>
    simp [operation, draft, Lifecycle.updateAlert, Registry.updateAlert, Lifecycle.alertsChanged,
      Draft.perform, Edit.write]
    rfl
  | act action id =>
    -- Both look the alert up and then refuse alike, or go on alike.
    simp only [operation, draft, Lifecycle.act, Registry.updateAlert, map_bind, bind_assoc]
    apply bind_congr
    intro a
    split
    · simp
    · cases action <;> simp [Lifecycle.announce, Lifecycle.alertsChanged, AlertAction.topics,
        Draft.perform, Edit.write] <;> rfl
  | deleteAlert id =>
    simp only [operation, draft, Lifecycle.deleteAlert, Registry.deleteAlert, map_bind, bind_assoc]
    apply bind_congr
    intro a
    split
    · simp
    · simp [Lifecycle.alertsChanged, Draft.perform, Edit.write]
  | createRecipient r =>
    simp [operation, draft, Lifecycle.createRecipient, Registry.createRecipient, Draft.perform,
      Edit.write]
    rfl
  | updateRecipient id r =>
    simp [operation, draft, Lifecycle.updateRecipient, Registry.updateRecipient, Draft.perform,
      Edit.write]
    rfl
  | deleteRecipient id =>
    simp only [operation, draft, Lifecycle.deleteRecipient, Registry.deleteRecipient, map_bind,
      bind_assoc]
    apply bind_congr
    intro r
    apply bind_congr
    intro all
    split
    · simp
    · simp [Draft.perform, Edit.write]
  | saveAlertConfig c =>
    -- What follows the check of the time-out is the same with and without it.
    have hsave : ((fun _ => ()) <$> do
          let saved ← Registry.saveAlertConfig c
          .notify .alertChanged
          return saved : Operation Unit) = (do
          let former ← Registry.alertConfig
          let id ← Registry.settingsOwnId c former
          return (⟨if former.isSome then .update (.alertConfig { c with id := id })
            else .create (.alertConfig { c with id := id }), [.alertChanged]⟩ : Draft)) >>=
              Draft.perform := by
      simp only [Registry.saveAlertConfig, map_bind, bind_assoc]
      apply bind_congr
      intro former
      cases former <;> simp [Draft.perform, Edit.write] <;> rfl
    simp only [operation, draft, Lifecycle.saveAlertConfig]
    split
    · simp only [map_bind, bind_assoc] at hsave ⊢
      apply bind_congr
      intro d
      exact hsave
    · exact hsave

/-! ## What a request decides on -/

/-- What can be decided on for a request, given the contents of the store and the silences, and
which silences there are then. -/
inductive Yields (P : Promise) (k : Contents) (w : Finset (String × String)) :
    Request → Draft → Finset (String × String) → Prop
  /-- A new alert has a recipient, and starts enabled and without times. -/
  | createAlert {a : Alert} {r : Recipient} {id : String} (hvalid : a.validate = .ok ())
      (hrecipient : k.recipients.find? a.recipientId = some r)
      (hid : P .freshId (k.site w) id) :
      Yields P k w (.createAlert a)
        ⟨.create (.alert { a with id := id, state := .enabled, startsAt := none, endsAt := none }),
          [.alertChanged, .metricsChanged]⟩ w
  /-- An alert has a recipient, and keeps its id, state and times. -/
  | updateAlert {id : String} {a current : Alert} {r : Recipient}
      (hfound : k.alerts.find? id = some current) (hvalid : a.validate = .ok ())
      (hrecipient : k.recipients.find? a.recipientId = some r) :
      Yields P k w (.updateAlert id a)
        ⟨.update (.alert
          { a with
            id := current.id
            state := current.state
            startsAt := current.startsAt
            endsAt := current.endsAt }),
          [.alertChanged, .metricsChanged]⟩ w
  /-- An alert that is enabled or disabled changes nothing but its state. -/
  | enable {id : String} {a : Alert} (hfound : k.alerts.find? id = some a)
      (hstate : a.state = .disabled) :
      Yields P k w (.act .enable id)
        ⟨.update (.alert { a with state := .enabled }), [.alertChanged, .metricsChanged]⟩ w
  | disable {id : String} {a : Alert} (hfound : k.alerts.find? id = some a)
      (hstate : a.state = .enabled) :
      Yields P k w (.act .disable id)
        ⟨.update (.alert { a with state := .disabled }), [.alertChanged, .metricsChanged]⟩ w
  /-- An alert is silenced first at the alerting backend. -/
  | silence {id : String} {a : Alert} (hfound : k.alerts.find? id = some a)
      (hstate : a.state = .active) :
      Yields P k w (.act .silence id) ⟨.update (.alert { a with state := .suppressed }), []⟩
        (insert a.silence w)
  | unsilence {id : String} {a : Alert} (hfound : k.alerts.find? id = some a)
      (hstate : a.state = .suppressed) :
      Yields P k w (.act .unsilence id) ⟨.update (.alert { a with state := .active }), []⟩
        (w.erase a.silence)
  /-- Only a disabled alert is deleted. -/
  | deleteAlert {id : String} {a : Alert} (hfound : k.alerts.find? id = some a)
      (hstate : a.state = .disabled) :
      Yields P k w (.deleteAlert id) ⟨.deleteAlert id, [.alertChanged, .metricsChanged]⟩ w
  | createRecipient {r : Recipient} {id : String} (hvalid : r.validate = .ok ())
      (hid : P .freshId (k.site w) id) :
      Yields P k w (.createRecipient r)
        ⟨.create (.recipient { r with id := id }), [.alertChanged]⟩ w
  | updateRecipient {id : String} {r former : Recipient}
      (hfound : k.recipients.find? id = some former) (hvalid : r.validate = .ok ()) :
      Yields P k w (.updateRecipient id r)
        ⟨.update (.recipient { r with id := id }), [.alertChanged]⟩ w
  /-- Only a recipient is deleted that no alert names. -/
  | deleteRecipient {id : String} {r : Recipient} (hfound : k.recipients.find? id = some r)
      (hunused : ∀ a ∈ k.alertList, a.recipientId ≠ id) :
      Yields P k w (.deleteRecipient id) ⟨.deleteRecipient id, [.alertChanged]⟩ w
  | saveAlertConfig {c : AlertConfig} {id : String}
      (hvalid : c.resolveTimeout = "" ∨ ∃ d, Duration.parse c.resolveTimeout = .ok d) :
      Yields P k w (.saveAlertConfig c)
        ⟨if k.settings.isSome then .update (.alertConfig { c with id := id })
          else .create (.alertConfig { c with id := id }), [.alertChanged]⟩ w

/-- How a request may have decided at its end: on a change, or not, and then nothing happened. -/
def Decided (P : Promise) (k : Contents) (w : Finset (String × String)) (q : Request) :
    Except Error Draft → Site → Prop
  | .ok d, t => ∃ w', q.Yields P k w d w' ∧ t = k.site w'
  | .error _, t => t = k.site w

variable {P : Promise} {k : Contents} {w : Finset (String × String)}

/-- A recipient is required of which one is stored. -/
theorem always_requireRecipient {id : String} {post : Except Error Unit → Site → Prop}
    (hfail : ∀ e, post (.error e) (k.site w))
    (hok : ∀ r, k.recipients.find? id = some r → post (.ok ()) (k.site w)) :
    Always (Site.answering P) post (Lifecycle.requireRecipient id).outcome (k.site w) := by
  unfold Lifecycle.requireRecipient
  rw [Operation.outcome_lift_bind, Program.always_bind]
  apply Registry.always_recipient
  · intro e
    split
    · next h => nomatch h
    · next h =>
      split <;> exact hfail _
  · exact hok

/-- A request decides on a change that it may decide on. -/
theorem always_draft (q : Request) :
    Always (Site.answering P) (Decided P k w q) q.draft.outcome (k.site w) := by
  have hfail {q : Request} : ∀ e, Decided P k w q (.error e) (k.site w) := fun _ => rfl
  cases q with
  | createAlert a =>
    unfold draft
    apply Operation.always_ofExcept_bind hfail
    intro _ hvalid
    rw [Operation.always_bind]
    apply always_requireRecipient hfail
    intro r hrecipient
    rw [Operation.always_bind]
    apply Site.always_freshId
    intro id hid
    exact ⟨w, .createAlert hvalid hrecipient hid, rfl⟩
  | updateAlert id a =>
    unfold draft
    rw [Operation.always_bind]
    apply Registry.always_alert hfail
    intro current hfound
    apply Operation.always_ofExcept_bind hfail
    intro _ hvalid
    rw [Operation.always_bind]
    apply always_requireRecipient hfail
    intro r hrecipient
    exact ⟨w, .updateAlert hfound hvalid hrecipient, rfl⟩
  | act action id =>
    unfold draft
    rw [Operation.always_bind]
    apply Registry.always_alert hfail
    intro a hfound
    by_cases hstate : a.state = action.source
    · simp only [ne_eq, hstate, not_true_eq_false, if_false]
      -- Only to silence an alert or to undo that the backend is called, and that may fail.
      cases action with
      | enable => exact ⟨w, .enable hfound hstate, rfl⟩
      | disable => exact ⟨w, .disable hfound hstate, rfl⟩
      | silence =>
        rintro x t ⟨-, ⟨rfl, rfl⟩ | ⟨e, rfl, rfl⟩⟩
        · exact ⟨insert a.silence w, .silence hfound hstate, rfl⟩
        · exact hfail e
      | unsilence =>
        rintro x t ⟨-, ⟨rfl, rfl⟩ | ⟨e, rfl, rfl⟩⟩
        · exact ⟨w.erase a.silence, .unsilence hfound hstate, rfl⟩
        · exact hfail e
    · simp only [ne_eq, hstate, not_false_eq_true, if_true]
      exact hfail _
  | deleteAlert id =>
    unfold draft
    rw [Operation.always_bind]
    apply Registry.always_alert hfail
    intro a hfound
    by_cases hstate : a.state = .disabled
    · simp only [ne_eq, hstate, not_true_eq_false, if_false]
      exact ⟨w, .deleteAlert hfound hstate, rfl⟩
    · simp only [ne_eq, hstate, not_false_eq_true, if_true]
      exact hfail _
  | createRecipient r =>
    unfold draft
    apply Operation.always_ofExcept_bind hfail
    intro _ hvalid
    rw [Operation.always_bind]
    apply Site.always_freshId
    intro id hid
    exact ⟨w, .createRecipient hvalid hid, rfl⟩
  | updateRecipient id r =>
    unfold draft
    rw [Operation.always_bind]
    apply Registry.always_recipient hfail
    intro former hfound
    apply Operation.always_ofExcept_bind hfail
    intro _ hvalid
    exact ⟨w, .updateRecipient hfound hvalid, rfl⟩
  | deleteRecipient id =>
    unfold draft
    rw [Operation.always_bind]
    apply Registry.always_recipient hfail
    intro r hfound
    rw [Operation.always_bind]
    apply Registry.always_alerts hfail
    by_cases hused : (k.alertList.any fun a => a.recipientId == id) = true
    · simp only [hused, if_true]
      exact hfail _
    · simp only [hused]
      refine ⟨w, .deleteRecipient hfound ?_, rfl⟩
      intro a ha heq
      exact hused (List.any_eq_true.2 ⟨a, ha, beq_iff_eq.2 heq⟩)
  | saveAlertConfig c =>
    -- The check of the time-out changes nothing of what follows.
    have hsave (hvalid : c.resolveTimeout = "" ∨ ∃ d, Duration.parse c.resolveTimeout = .ok d) :
        Always (Site.answering P) (Decided P k w (.saveAlertConfig c)) (do
          let former ← Registry.alertConfig
          let id ← Registry.settingsOwnId c former
          let saved := { c with id := id }
          return (⟨if former.isSome then .update (.alertConfig saved)
            else .create (.alertConfig saved), [.alertChanged]⟩ : Draft) :
              Operation Draft).outcome (k.site w) := by
      rw [Operation.always_bind]
      apply Registry.always_alertConfig hfail
      show Always _ _ (Registry.settingsOwnId c k.settings >>= _ : Operation Draft).outcome _
      rw [Operation.always_bind]
      apply Registry.always_settingsOwnId
      intro id
      exact ⟨w, .saveAlertConfig hvalid, rfl⟩
    rw [draft]
    split
    · apply Operation.always_ofExcept_bind hfail
      intro d hd
      exact hsave (.inr ⟨d, hd⟩)
    · next hempty => exact hsave (.inl (not_not.1 hempty))

/-! ## What comes of a request -/

/-- What may have come of a request: it succeeded and made its change, or it failed and left the
store alone, with or without having changed the silences. -/
def Ended (P : Promise) (k : Contents) (w : Finset (String × String)) (q : Request) :
    Except Error Unit → Site → Prop
  | .ok _, t => ∃ d w', q.Yields P k w d w' ∧ d.edit.Admitted k ∧ t = (d.edit.apply k).site w'
  | .error _, t => t = k.site w ∨ ∃ d w', q.Yields P k w d w' ∧ t = k.site w'

/-- A request makes the change that it decided on, or it fails. -/
theorem always_operation (q : Request) :
    Always (Site.answering P) (Ended P k w q) q.operation.outcome (k.site w) := by
  rw [operation_eq, Operation.always_bind]
  apply (always_draft q).mono
  rintro (e | d) t hdecided
  · exact .inl hdecided
  · obtain ⟨w', hyields, rfl⟩ := hdecided
    apply d.always_perform
    · intro err
      exact .inr ⟨d, w', hyields, rfl⟩
    · intro hadmitted
      exact ⟨d, w', hyields, hadmitted, rfl⟩

end Request

end AlertSync
