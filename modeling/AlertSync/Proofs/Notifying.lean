import AlertSync.Proofs.Program.Ground
import AlertSync.Proofs.Task
import AlertSync.Proofs.View

/-!
# Who notifies whom

A task that changes what the file of a topic shows notifies the topic: it does so after it has
written, whatever it is answered in between. So from its write on it owes the topic a notification
(`Program.Owes`), and as long as it does not owe one, the view of the topic is what it was. That is
what `Program.Tidy` says of a program, call by call, and every task is tidy (`Task.tidy`). A request
writes once, and notifies each topic whose view its change may touch (`Request.Yields.shown`); a
tick writes alerts of which nothing but what was observed is new.
-/

namespace AlertSync

open Program (Always)

namespace Call

/-- Whether a call changes no more than what was observed of alerts. -/
def Restates (alerts : SortedMap Alert) (c : Call) : Prop :=
  c.isHarmless = true ∨
    ∃ a : Alert, c = update .alert a.id a.payload ∧ alerts.find? a.id = some a.unobserved

/-- A call that changes no more than what was observed does not write files. -/
theorem Restates.writesFile {alerts : SortedMap Alert} {c : Call} (h : c.Restates alerts) :
    c.writesFile = false := by
  obtain h | ⟨a, rfl, -⟩ := h
  · exact (isHarmless_iff.1 h).2
  · rfl

end Call

namespace Program

variable {α β : Type} {topic : Topic} {k : Contents} {w : Finset (String × String)}

/-- Whether a program notifies a topic before it ends, whatever it is answered. -/
def Owes (topic : Topic) : Program α → Prop
  | done _ => False
  | call c next => c = .notify topic ∨ ∀ x, Owes topic (next x)

/-- Whether every call of a program, from some contents on, leaves the view of a topic as it is, or
writes and then owes the topic a notification. -/
def Tidy (topic : Topic) : Program α → Contents → Finset (String × String) → Prop
  | done _, _, _ => True
  | call c next, k, w => c.writesFile = false ∧ ∀ x t, (k.site w).Effect c x t →
      ∃ k' w', t = k'.site w' ∧ Tidy topic (next x) k' w' ∧
        (k'.view topic = k.view topic ∨ c.wrote x = true ∧ Owes topic (next x))

/-- What a program owes is owed by whatever begins with it. -/
theorem owes_bind {p : Program α} {f : α → Program β} (h : Owes topic p) :
    Owes topic (p >>= f) := by
  induction p with
  | done a => exact h.elim
  | call c next ih =>
    obtain hc | hnext := h
    · exact .inl hc
    · exact .inr fun x => ih x (hnext x)

/-- Each of several topics that are to be notified is owed a notification. -/
theorem owes_forM_notify {topics : List Topic} (h : topic ∈ topics) :
    Owes topic (topics.forM fun t => (ask (.notify t) : Program Unit)) := by
  induction topics with
  | nil => nomatch h
  | cons t topics ih =>
    obtain rfl | h := List.mem_cons.1 h
    · exact .inl rfl
    · exact .inr fun _ => ih h

/-- A program is tidy that begins with harmless calls and goes on tidily. -/
theorem tidy_bind {p : Program α} {f : α → Program β} (hcalls : p.Calls (·.isHarmless = true))
    (h : Always (Site.answering .none)
      (fun a t => ∀ w', t = k.site w' → Tidy topic (f a) k w') p (k.site w)) :
    Tidy topic (p >>= f) k w := by
  induction p generalizing w with
  | done a => exact h w rfl
  | call c next ih =>
    obtain ⟨hc, hnext⟩ := hcalls
    obtain ⟨hstore, hfile⟩ := Call.isHarmless_iff.1 hc
    refine ⟨hfile, ?_⟩
    intro x t heffect
    obtain ⟨w', rfl⟩ := heffect.exists_site hstore
    exact ⟨k, w', rfl, ih x (hnext x) (h x _ ⟨trivial, heffect⟩), .inl rfl⟩

/-- A program is tidy that changes no more than what was observed of alerts. -/
theorem tidy_of_restates {p : Program α}
    (h : p.Calls (Call.Restates (k.alerts.map Alert.unobserved))) : Tidy topic p k w := by
  induction p generalizing k w with
  | done a => trivial
  | call c next ih =>
    obtain ⟨hc, hnext⟩ := h
    refine ⟨hc.writesFile, ?_⟩
    intro x t heffect
    -- What is unobserved of the alerts is the same after each call, so the calls that follow still
    -- restate it.
    obtain hc | ⟨a, rfl, hfound⟩ := hc
    · obtain ⟨w', rfl⟩ := heffect.exists_site (Call.isHarmless_iff.1 hc).1
      exact ⟨k, w', rfl, ih x (hnext x), .inl rfl⟩
    · obtain ⟨o, hchange, -, rfl⟩ | ⟨e, -, rfl⟩ := heffect
      · obtain ⟨-, rfl⟩ := (Edit.update (.alert a)).change_eq_ok.1 hchange
        rw [SortedMap.find?_map, Option.map_eq_some_iff] at hfound
        obtain ⟨b, hfound, hsame⟩ := hfound
        have hview := Contents.view_put_alert hfound hsame.symm
        refine ⟨k.put (.alert a), w, rfl, ih x ?_, .inl (hview topic)⟩
        rw [← Contents.alerts_view _ topic, hview, Contents.alerts_view]
        exact hnext x
      · exact ⟨k, w, rfl, ih x (hnext x), .inl rfl⟩

end Program

/-- An operation is tidy that begins with harmless calls and goes on tidily. -/
theorem Operation.tidy_bind {α β : Type} {topic : Topic} {k : Contents}
    {w : Finset (String × String)} {o : Operation α} {f : α → Operation β}
    (hcalls : o.outcome.Calls (·.isHarmless = true))
    (h : Always (Site.answering .none) (fun r t => ∀ a w', r = .ok a → t = k.site w' →
      (f a).outcome.Tidy topic k w') o.outcome (k.site w)) :
    (o >>= f).outcome.Tidy topic k w := by
  apply Program.tidy_bind hcalls
  apply h.mono
  rintro (e | a) t ht w' rfl
  · trivial
  · exact ht a w' rfl rfl

/-! ## What the registry calls -/

namespace Registry

/-- Looking up a payload only reads. -/
theorem calls_payload (kind : Kind) (id : String) :
    (payload kind id).outcome.Calls (·.isRead = true) := by
  refine ⟨rfl, ?_⟩
  rintro (e | _ | object) <;> trivial

/-- Looking up a value only reads. -/
theorem calls_lookup {α : Type} (f : Shelf α) (id : String) :
    (f.lookup id).outcome.Calls (·.isRead = true) :=
  Operation.calls_bind (calls_payload f.kind id) fun _ => trivial

/-- Listing values only reads. -/
theorem calls_listing {α : Type} (f : Shelf α) : f.listing.outcome.Calls (·.isRead = true) := by
  have hlist : (objects f.kind).outcome.Calls (·.isRead = true) := ⟨rfl, fun _ => trivial⟩
  unfold Shelf.listing
  apply Operation.calls_bind hlist
  intro objects
  exact Operation.calls_bind trivial fun _ => trivial

/-- Looking up the notification settings only reads. -/
theorem calls_alertConfig : alertConfig.outcome.Calls (·.isRead = true) := by
  refine ⟨rfl, ?_⟩
  rintro (e | _ | object) <;> trivial

/-- Finding an id for notification settings is harmless. -/
theorem calls_settingsOwnId (c : AlertConfig) (former : Option AlertConfig) :
    (settingsOwnId c former).outcome.Calls (·.isHarmless = true) := by
  unfold settingsOwnId
  split
  · trivial
  · split
    · exact ⟨rfl, fun _ => trivial⟩
    · trivial

end Registry

/-! ## Requests -/

namespace Request

/-- Looking for a recipient that is required is harmless. -/
theorem calls_requireRecipient (id : String) :
    (Lifecycle.requireRecipient id).outcome.Calls (·.isHarmless = true) := by
  unfold Lifecycle.requireRecipient
  rw [Operation.outcome_lift_bind]
  apply Program.calls_bind ((Registry.calls_lookup .recipients id).mono Call.isHarmless_of_isRead)
  rintro (e | r)
  · show (if _ then _ else _ : Operation Unit).outcome.Calls _
    split <;> trivial
  · trivial

/-- What a request does before it writes is harmless. -/
theorem calls_draft (q : Request) : q.draft.outcome.Calls (·.isHarmless = true) := by
  have hdone {α : Type} (e : Except Error α) :
      (Operation.ofExcept e).outcome.Calls (·.isHarmless = true) := trivial
  have hfreshId : Operation.freshId.outcome.Calls (·.isHarmless = true) := ⟨rfl, fun _ => trivial⟩
  have halert (id : String) : (Registry.alert id).outcome.Calls (·.isHarmless = true) :=
    (Registry.calls_lookup .alerts id).mono Call.isHarmless_of_isRead
  have hrecipient (id : String) : (Registry.recipient id).outcome.Calls (·.isHarmless = true) :=
    (Registry.calls_lookup .recipients id).mono Call.isHarmless_of_isRead
  cases q with
  | createAlert a =>
    apply Operation.calls_bind (hdone a.validate)
    intro _
    apply Operation.calls_bind (calls_requireRecipient a.recipientId)
    intro _
    exact Operation.calls_bind hfreshId fun _ => trivial
  | updateAlert id a =>
    apply Operation.calls_bind (halert id)
    intro current
    apply Operation.calls_bind (hdone a.validate)
    intro _
    exact Operation.calls_bind (calls_requireRecipient a.recipientId) fun _ => trivial
  | act action id =>
    apply Operation.calls_bind (halert id)
    intro a
    have hprepare : (Lifecycle.prepare a action).outcome.Calls (·.isHarmless = true) := by
      cases action with
      | enable | disable => trivial
      | silence | unsilence => exact ⟨rfl, fun _ => trivial⟩
    show (if _ then _ else _ : Operation Draft).outcome.Calls _
    split
    · trivial
    · exact Operation.calls_bind hprepare fun _ => trivial
  | deleteAlert id =>
    apply Operation.calls_bind (halert id)
    intro a
    show (if _ then _ else _ : Operation Draft).outcome.Calls _
    split <;> trivial
  | createRecipient r =>
    apply Operation.calls_bind (hdone r.validate)
    intro _
    exact Operation.calls_bind hfreshId fun _ => trivial
  | updateRecipient id r =>
    apply Operation.calls_bind (hrecipient id)
    intro _
    exact Operation.calls_bind (hdone r.validate) fun _ => trivial
  | deleteRecipient id =>
    apply Operation.calls_bind (hrecipient id)
    intro _
    apply Operation.calls_bind ((Registry.calls_listing .alerts).mono Call.isHarmless_of_isRead)
    intro all
    show (if _ then _ else _ : Operation Draft).outcome.Calls _
    split <;> trivial
  | saveAlertConfig c =>
    have hsave : (do
        let former ← Registry.alertConfig
        let id ← Registry.settingsOwnId c former
        let saved := { c with id := id }
        return (⟨if former.isSome then .update (.alertConfig saved)
          else .create (.alertConfig saved), [.alertChanged]⟩ : Draft) :
            Operation Draft).outcome.Calls (·.isHarmless = true) := by
      apply Operation.calls_bind (Registry.calls_alertConfig.mono Call.isHarmless_of_isRead)
      intro former
      exact Operation.calls_bind (Registry.calls_settingsOwnId c former) fun _ => trivial
    rw [draft]
    split
    · exact Operation.calls_bind (hdone (Duration.parse c.resolveTimeout)) fun _ => hsave
    · exact hsave

/-- A request notifies the topics whose views its change touches. -/
theorem Yields.shown {P : Promise} {k : Contents} {w w' : Finset (String × String)} {q : Request}
    {d : Draft} (h : q.Yields P k w d w') (topic : Topic) :
    topic ∈ d.topics ∨ (d.edit.apply k).view topic = k.view topic := by
  have hboth : topic ∈ [Topic.alertChanged, .metricsChanged] := by cases topic <;> decide
  -- What concerns recipients and settings is not shown by the rules.
  have hrouting (k' : Contents) (hsame : k'.alerts = k.alerts) :
      topic ∈ [Topic.alertChanged] ∨ k'.view topic = k.view topic := by
    cases topic with
    | alertChanged => exact .inl (by decide)
    | metricsChanged =>
      right
      show View.mk none (k'.alerts.map _) .empty = View.mk none (k.alerts.map _) .empty
      rw [hsame]
  -- An alert may go from one state in which it is not disabled to another.
  have hmoved {id : String} {a : Alert} {source target : AlertState}
      (hfound : k.alerts.find? id = some a) (hstate : a.state = source)
      (hsource : source ≠ .disabled) (htarget : target ≠ .disabled) :
      (k.put (.alert { a with state := target })).view topic = k.view topic := by
    rw [← k.id_of_alert hfound] at hfound
    have hdisabled : (target == .disabled) = a.isDisabled := by
      rw [Alert.isDisabled, hstate, beq_false_of_ne hsource, beq_false_of_ne htarget]
    have hsame : { a with state := target }.unobserved = a.unobserved :=
      Alert.unobserved_observed hdisabled _ _
    exact Contents.view_put_alert (b := { a with state := target }) hfound hsame topic
  cases h with
  | createAlert _ _ _ | updateAlert _ _ _ | enable _ _ | disable _ _ | deleteAlert _ _ =>
    exact .inl hboth
  | silence hfound hstate => exact .inr (hmoved hfound hstate nofun nofun)
  | unsilence hfound hstate => exact .inr (hmoved hfound hstate nofun nofun)
  | createRecipient _ _ | updateRecipient _ _ | deleteRecipient _ _ => exact hrouting _ rfl
  | saveAlertConfig _ =>
    apply hrouting
    cases k.settings <;> rfl

end Request

/-- To notify is harmless. -/
theorem Draft.calls_notify {C : Call → Prop} (hharmless : ∀ c, c.isHarmless = true → C c)
    (topics : List Topic) : (Operation.outcome (topics.forM Operation.notify)).Calls C := by
  rw [forM_notify]
  apply Program.calls_bind
  · apply Program.calls_forM
    intro topic _
    exact Program.calls_ask (hharmless _ rfl)
  · exact fun _ => trivial

/-- Making a change is tidy if every topic is notified whose view the change touches. -/
theorem Draft.tidy_perform {topic : Topic} {k : Contents} (d : Draft)
    (h : topic ∈ d.topics ∨ (d.edit.apply k).view topic = k.view topic)
    (w : Finset (String × String)) : d.perform.outcome.Tidy topic k w := by
  have howes (hmem : topic ∈ d.topics) :
      (Operation.outcome (d.topics.forM Operation.notify)).Owes topic := by
    rw [forM_notify]
    exact Program.owes_bind (Program.owes_forM_notify hmem)
  have htidy (k' : Contents) :
      (Operation.outcome (d.topics.forM Operation.notify)).Tidy topic k' w :=
    Program.tidy_of_restates (calls_notify (fun _ hc => .inl hc) d.topics)
  -- Whichever change is made, it is made or it fails, and only then topics are notified.
  have hwrites : ∀ (x : Except Error Unit) (t : Site),
      (k.site w).Writes (d.edit.change k.objects) x t →
      ∃ k' w', t = k'.site w' ∧
        Program.Tidy topic (ExceptT.bindCont (fun _ => d.topics.forM Operation.notify) x) k' w' ∧
        (k'.view topic = k.view topic ∨ x.isOk = true ∧
          Program.Owes topic (ExceptT.bindCont (fun _ => d.topics.forM Operation.notify) x)) := by
    rintro x t (⟨o, hchange, rfl, rfl⟩ | ⟨e, rfl, rfl⟩)
    · obtain ⟨-, rfl⟩ := d.edit.change_eq_ok.1 hchange
      refine ⟨d.edit.apply k, w, rfl, htidy _, ?_⟩
      obtain hmem | hview := h
      · exact .inr ⟨rfl, howes hmem⟩
      · exact .inl hview
    · exact ⟨k, w, rfl, trivial, .inl rfl⟩
  unfold perform
  cases hedit : d.edit with
  | create _ | update _ | deleteAlert _ | deleteRecipient _ =>
    rw [hedit] at hwrites
    exact ⟨rfl, hwrites⟩

/-- Requests are tidy. -/
theorem Request.tidy_operation (q : Request) (topic : Topic) (k : Contents)
    (w : Finset (String × String)) : q.operation.outcome.Tidy topic k w := by
  rw [operation_eq]
  apply Operation.tidy_bind q.calls_draft
  apply q.always_draft.mono
  rintro r t hdecided d w' rfl -
  obtain ⟨w'', hyields, -⟩ := hdecided
  exact d.tidy_perform (hyields.shown topic) w'

/-! ## Ticks -/

/-- Of an alert that is not disabled reconciling changes no more than what was observed. -/
theorem Alert.unobserved_reconcile {a : Alert} (henabled : a.isDisabled = false)
    (live : List LiveAlert) : (a.reconcile live).alert.unobserved = a.unobserved := by
  have hobserved : (observedState (a.observed? live) == .disabled) = a.isDisabled := by
    rw [henabled]
    cases a.observed? live with
    | none => rfl
    | some l =>
      rw [observedState]
      split <;> rfl
  exact unobserved_observed hobserved _ _

/-- Settling an alert calls for nothing but what is harmless and that the alert is stored. -/
theorem Synchronizer.calls_settle {C : Call → Prop} {r : Reconciliation}
    (hharmless : ∀ c, c.isHarmless = true → C c)
    (hstore : C (.update .alert r.alert.id r.alert.payload)) : (settle r).Calls C := by
  have hupdate : ((Registry.updateAlert r.alert).outcome >>= fun _ => pure ()).Calls C :=
    ⟨hstore, fun _ => trivial⟩
  have hunsilence : (unsilence r.alert >>= fun _ => (Registry.updateAlert r.alert).outcome >>=
      fun _ => pure ()).Calls C := by
    refine ⟨hharmless _ rfl, ?_⟩
    rintro (e | _)
    · exact hupdate
    · exact ⟨hharmless _ rfl, fun _ => hupdate⟩
  unfold settle
  split
  · split
    · split
      · exact ⟨hharmless _ rfl, fun _ => hunsilence⟩
      · exact hunsilence
    · split
      · exact ⟨hharmless _ rfl, fun _ => hupdate⟩
      · exact hupdate
  · trivial

/-- Ticks are tidy. -/
theorem Synchronizer.tidy_syncStates (topic : Topic) (k : Contents)
    (w : Finset (String × String)) : Task.tick.program.Tidy topic k w := by
  have hask : (Operation.ofProgram (.ask .liveAlerts)).outcome.Calls (·.isHarmless = true) :=
    ⟨rfl, fun _ => trivial⟩
  rw [Task.program_tick]
  apply Operation.tidy_bind hask
  rintro x t ⟨-, rfl⟩ live w' rfl hw'
  apply Operation.tidy_bind ((Registry.calls_listing .alerts).mono Call.isHarmless_of_isRead)
  apply Registry.always_alerts
  · exact fun e a _ h => nomatch h
  · rintro alerts w'' halerts -
    obtain rfl := Except.ok.inj halerts
    apply Program.tidy_of_restates
    apply Program.calls_bind
    · apply Program.calls_forM
      intro a ha
      rw [List.mem_filter, Bool.not_eq_true'] at ha
      refine calls_settle (fun _ hc => .inl hc) (.inr ⟨_, rfl, ?_⟩)
      rw [Alert.unobserved_reconcile ha.2]
      show (k.alerts.map Alert.unobserved).find? a.id = _
      rw [SortedMap.find?_map, Contents.mem_alertList.1 ha.1]
      rfl
    · exact fun _ => trivial

/-- Every task is tidy. -/
theorem Task.tidy (task : Task) (topic : Topic) (k : Contents) (w : Finset (String × String)) :
    task.program.Tidy topic k w := by
  cases task with
  | request q => exact q.tidy_operation topic k w
  | tick => exact Synchronizer.tidy_syncStates topic k w

end AlertSync
