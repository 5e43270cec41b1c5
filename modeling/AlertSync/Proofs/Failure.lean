import AlertSync.Proofs.Looking
import AlertSync.Proofs.Success

/-!
# Requests that fail

A request that ends with an error has left no trace: the stored objects, the bus and the counters
are as before, whatever payloads the store holds and whatever was answered. For it looks before it
writes, it writes once, and once it has written nothing fails any more. A request is `Rejected` for
what is asked and what is stored. Then it ends with an error, and before the alerting backend was
called; and a request that ends with an error is rejected, or one of its calls failed
(`unchanged_of_error`).
-/

namespace AlertSync

open Program (Always)

namespace Request

/-- Whether a request is rejected, given the stored objects: what is handed in is not valid; nothing
is stored under the id or the recipient's id, or something that cannot be read; an alert is not in
the state that is asked for; or an alert names the recipient that is to go. -/
def Rejected (o : Objects) : Request → Prop
  | createAlert a =>
    (∃ e, a.validate = .error e) ∨ ∃ e, Shelf.recipients.readIn o a.recipientId = .error e
  | updateAlert id a =>
    (∃ e, Shelf.alerts.readIn o id = .error e) ∨ (∃ e, a.validate = .error e) ∨
      ∃ e, Shelf.recipients.readIn o a.recipientId = .error e
  | act action id =>
    (∃ e, Shelf.alerts.readIn o id = .error e) ∨
      ∃ a, Shelf.alerts.readIn o id = .ok a ∧ a.state ≠ action.source
  | deleteAlert id =>
    (∃ e, Shelf.alerts.readIn o id = .error e) ∨
      ∃ a, Shelf.alerts.readIn o id = .ok a ∧ a.state ≠ .disabled
  | createRecipient r => ∃ e, r.validate = .error e
  | updateRecipient id r =>
    (∃ e, Shelf.recipients.readIn o id = .error e) ∨ ∃ e, r.validate = .error e
  | deleteRecipient id =>
    (∃ e, Shelf.recipients.readIn o id = .error e) ∨ (∃ e, Shelf.alerts.readAll o = .error e) ∨
      ∃ l, Shelf.alerts.readAll o = .ok l ∧ ∃ a ∈ l, a.recipientId = id
  | saveAlertConfig c =>
    (c.resolveTimeout ≠ "" ∧ ∃ e, Duration.parse c.resolveTimeout = .error e) ∨
      ∃ e, o.settings = .error e

end Request

/-- Whether the stored objects, the bus and the counters are the same. -/
structure Tally.Agrees (s t : Tally) : Prop where
  objects : t.ground.site.objects = s.ground.site.objects
  bus : t.ground.bus = s.ground.bus
  counters : t.counters = s.counters

/-- How a request may have gone, as far as it was run: what is rejected ends with an error, and the
alerting backend was not called; and any other error is that of a call. -/
structure Request.Judged {α : Type} (q : Request) (o : Objects) (r : Except Error α)
    (l : List Reply) : Prop where
  rejected : q.Rejected o → (∃ e, r = .error e) ∧ ∀ x ∈ l, x.call.isAlerting = false
  failed : (∃ e, r = .error e) → q.Rejected o ∨ ∃ x ∈ l, x.failed = true

/-- Whether an operation only looks, and ends with an error just under a condition, unless a call
fails. -/
def Operation.Refuses {α : Type} (o : Operation α) (C : Prop) (s : Tally) : Prop :=
  o.Looks (fun r => (∃ e, r = .error e) ↔ C) s

namespace Operation

variable {α β : Type} {s : Tally} {C : Prop}

/-- What throws refuses. -/
theorem refuses_throw {e : Error} (h : C) : (throw e : Operation α).Refuses C s := by
  apply (looks_ofExcept (.error e)).mono
  rintro r rfl
  exact iff_of_true ⟨e, rfl⟩ h

/-- What returns does not refuse. -/
theorem refuses_pure {a : α} (h : ¬ C) : (pure a : Operation α).Refuses C s := by
  apply (looks_ofExcept (.ok a)).mono
  rintro r rfl
  exact iff_of_false nofun h

/-- After looking a value up, an operation refuses for want of it, or goes on with it. -/
theorem Looks.refuses_bind {o : Operation α} {f : α → Operation β} {x : Except Error α}
    (ho : o.Looks (· = x) s) (hfail : ∀ e, x = .error e → C)
    (hok : ∀ a, x = .ok a → (f a).Refuses C s) : (o >>= f).Refuses C s :=
  ho.bind (fun e h => iff_of_true ⟨e, rfl⟩ (hfail e h.symm)) fun a h => hok a h.symm

/-- After a first operation that does not refuse, it is for a second to refuse. -/
theorem Refuses.bind {o : Operation α} {f : α → Operation β} {D : Prop} (ho : o.Refuses D s)
    (hfail : D → C) (hok : ¬ D → ∀ a, (f a).Refuses C s) : (o >>= f).Refuses C s := by
  apply Looks.bind ho
  · intro e h
    exact iff_of_true ⟨e, rfl⟩ (hfail (h.1 ⟨e, rfl⟩))
  · intro a h
    exact hok (fun hD => nomatch h.2 hD) a

end Operation

namespace Request

variable {s : Tally}

/-- Whoever requires a recipient refuses if it cannot be read. -/
theorem refuses_requireRecipient (id : String) : (Lifecycle.requireRecipient id).Refuses
    (∃ e, Shelf.recipients.readIn s.ground.site.objects id = .error e) s := by
  intro l
  unfold Lifecycle.requireRecipient
  rw [Operation.outcome_lift_bind, Program.always_bind]
  apply (Registry.looks_lookup .recipients id l).mono
  rintro (e | r) ⟨t, l'⟩ ⟨hunchanged, m, hm, halerting, hend⟩
  · -- The error may be another one, but there is one.
    have hlooked (e' : Error) : Looked (fun r : Except Error Unit => (∃ e, r = .error e) ↔
        ∃ e, Shelf.recipients.readIn s.ground.site.objects id = .error e) s l (.error e')
        (t, l') := by
      refine ⟨hunchanged, m, hm, halerting, ?_⟩
      obtain hv | ⟨-, hfailed⟩ := hend
      · exact .inl (iff_of_true ⟨e', rfl⟩ ⟨e, hv.symm⟩)
      · exact .inr ⟨⟨e', rfl⟩, hfailed⟩
    show Always _ _ (if _ then _ else _ : Operation Unit).outcome _
    split
    · exact hlooked _
    · exact hlooked e
  · refine ⟨hunchanged, m, hm, halerting, .inl (iff_of_false nofun ?_)⟩
    obtain hv | ⟨⟨e, he⟩, -⟩ := hend
    · rintro ⟨e, he⟩
      rw [he] at hv
      nomatch hv
    · nomatch he

/-- A request that does not act on an alert refuses just what is rejected, before it writes. -/
theorem refuses_draft {q : Request} (hact : ∀ action id, q ≠ .act action id) :
    q.draft.Refuses (q.Rejected s.ground.site.objects) s := by
  cases q with
  | act action id => exact absurd rfl (hact action id)
  | createAlert a =>
    apply (Operation.looks_ofExcept a.validate).refuses_bind
    · exact fun e h => .inl ⟨e, h⟩
    · intro _ hvalid
      apply (refuses_requireRecipient a.recipientId).bind .inr
      intro hrecipient _
      apply Operation.looks_freshId.bind (fun e h => nomatch h)
      intro id _
      exact Operation.refuses_pure (by simp [Rejected, hvalid, hrecipient])
  | updateAlert id a =>
    apply (Registry.looks_lookup .alerts id).refuses_bind
    · exact fun e h => .inl ⟨e, h⟩
    · intro current hcurrent
      apply (Operation.looks_ofExcept a.validate).refuses_bind
      · exact fun e h => .inr (.inl ⟨e, h⟩)
      · intro _ hvalid
        apply (refuses_requireRecipient a.recipientId).bind fun h => .inr (.inr h)
        intro hrecipient _
        exact Operation.refuses_pure (by simp [Rejected, hcurrent, hvalid, hrecipient])
  | deleteAlert id =>
    apply (Registry.looks_lookup .alerts id).refuses_bind
    · exact fun e h => .inl ⟨e, h⟩
    · intro a ha
      show (if _ then _ else _ : Operation Draft).Refuses _ _
      split
      · next hstate => exact Operation.refuses_throw (.inr ⟨a, ha, hstate⟩)
      · next hstate =>
        exact Operation.refuses_pure (by simpa [Rejected, ha] using hstate)
  | createRecipient r =>
    apply (Operation.looks_ofExcept r.validate).refuses_bind
    · exact fun e h => ⟨e, h⟩
    · intro _ hvalid
      apply Operation.looks_freshId.bind (fun e h => nomatch h)
      intro id _
      exact Operation.refuses_pure (by simp [Rejected, hvalid])
  | updateRecipient id r =>
    apply (Registry.looks_lookup .recipients id).refuses_bind
    · exact fun e h => .inl ⟨e, h⟩
    · intro former hformer
      apply (Operation.looks_ofExcept r.validate).refuses_bind
      · exact fun e h => .inr ⟨e, h⟩
      · intro _ hvalid
        exact Operation.refuses_pure (by simp [Rejected, hformer, hvalid])
  | deleteRecipient id =>
    apply (Registry.looks_lookup .recipients id).refuses_bind
    · exact fun e h => .inl ⟨e, h⟩
    · intro r hr
      apply (Registry.looks_listing .alerts).refuses_bind
      · exact fun e h => .inr (.inl ⟨e, h⟩)
      · intro all hall
        show (if _ then _ else _ : Operation Draft).Refuses _ _
        split
        · next hused =>
          exact Operation.refuses_throw (.inr (.inr ⟨all, hall, by simpa using hused⟩))
        · next hunused =>
          exact Operation.refuses_pure (by simpa [Rejected, hr, hall] using hunused)
  | saveAlertConfig c =>
    -- The settings are looked up alike whether or not a time-out was given.
    have hsave (hvalid : ¬ (c.resolveTimeout ≠ "" ∧
        ∃ e, Duration.parse c.resolveTimeout = .error e)) : (do
        let former ← Registry.alertConfig
        let id ← Registry.settingsOwnId c former
        let saved := { c with id := id }
        return (⟨if former.isSome then .update (.alertConfig saved)
          else .create (.alertConfig saved), [.alertChanged]⟩ : Draft) : Operation Draft).Refuses
            ((saveAlertConfig c).Rejected s.ground.site.objects) s := by
      apply Registry.looks_alertConfig.refuses_bind
      · exact fun e h => .inr ⟨e, h⟩
      · intro former hformer
        apply (Registry.looks_settingsOwnId c former).bind (fun e h => nomatch h)
        intro id _
        exact Operation.refuses_pure (by simpa [Rejected, hformer] using hvalid)
    rw [draft]
    split
    · next hgiven =>
      apply (Operation.looks_ofExcept (Duration.parse c.resolveTimeout)).refuses_bind
      · exact fun e h => .inl ⟨hgiven, e, h⟩
      · intro d hd
        apply hsave
        rintro ⟨-, e, he⟩
        rw [hd] at he
        cases he
    · next hnone => exact hsave fun h => hnone h.1

/-- What refuses just what is rejected is judged so. -/
theorem judged_of_looked {α : Type} {q : Request} {r : Except Error α} {t : Tally × List Reply}
    (h : Looked (fun r => (∃ e, r = .error e) ↔ q.Rejected s.ground.site.objects) s [] r t) :
    q.Judged s.ground.site.objects r t.2 := by
  obtain ⟨-, m, hm, halerting, hend⟩ := h
  rw [List.nil_append] at hm
  rw [hm]
  obtain hverdict | ⟨herror, hfailed⟩ := hend
  · exact ⟨fun h => ⟨hverdict.2 h, halerting⟩, fun h => .inl (hverdict.1 h)⟩
  · exact ⟨fun _ => ⟨herror, halerting⟩, fun _ => .inr hfailed⟩

/-- Preparing an action at the alerting backend changes silences at most, and fails only with a
call. -/
theorem always_prepare (a : Alert) (action : AlertAction) (l : List Reply) :
    Always Tally.answering.noted (fun r t => s.Agrees t.1 ∧
      ((∃ e, r = .error e) → ∃ x ∈ t.2, x.failed = true))
      (Lifecycle.prepare a action).outcome (s, l) := by
  have hsilences {c : Call} {x : c.Answer} {y : Except Error Unit} {t : Tally}
      {after : Finset (String × String)} (hsite : s.ground.site.Silences after y t.ground.site)
      (hbus : t.ground.bus = s.ground.bus) (hcounters : t.counters = s.counters)
      (hfailed : c.failed x = !y.isOk) : s.Agrees t ∧
        ((∃ e, y = .error e) → ∃ z ∈ l ++ [⟨c, x⟩], Reply.failed z = true) := by
    obtain ⟨rfl, hs⟩ | ⟨e, rfl, hs⟩ := hsite
    · exact ⟨⟨by rw [hs], hbus, hcounters⟩, nofun⟩
    · refine ⟨⟨by rw [hs], hbus, hcounters⟩, fun _ => ?_⟩
      exact ⟨⟨c, x⟩, List.mem_append_right l (List.mem_singleton_self _), hfailed⟩
  cases action with
  | enable | disable => exact ⟨⟨rfl, rfl, rfl⟩, nofun⟩
  | silence | unsilence =>
    rintro x ⟨t, l'⟩ ⟨⟨⟨hsite, -, hbus⟩, hcounters⟩, rfl⟩
    exact hsilences hsite hbus hcounters rfl

/-- A request decides on a change without leaving anything behind, and is judged as it should be. -/
theorem judged_draft (q : Request) : Always Tally.answering.noted (fun r t =>
    s.Agrees t.1 ∧ q.Judged s.ground.site.objects r t.2) q.draft.outcome (s, []) := by
  have hsame {t : Tally} (h : t = s) : s.Agrees t := h ▸ ⟨rfl, rfl, rfl⟩
  by_cases hact : ∀ action id, q ≠ .act action id
  · apply (refuses_draft hact []).mono
    intro r t h
    exact ⟨hsame h.unchanged, judged_of_looked h⟩
  · -- An action calls the alerting backend, but only when it is allowed.
    push Not at hact
    obtain ⟨action, id, rfl⟩ := hact
    rw [draft, Operation.always_bind]
    apply (Registry.looks_lookup .alerts id []).mono
    rintro (e | a) ⟨t, l⟩ ⟨rfl, m, rfl, halerting, hend⟩
    · refine ⟨hsame rfl, fun _ => ⟨⟨e, rfl⟩, halerting⟩, fun _ => ?_⟩
      obtain hverdict | ⟨-, hfailed⟩ := hend
      · exact .inl (.inl ⟨e, hverdict.symm⟩)
      · exact .inr hfailed
    · have hfound : Shelf.alerts.readIn t.ground.site.objects id = .ok a := by
        obtain hverdict | ⟨⟨e, he⟩, -⟩ := hend
        · exact hverdict.symm
        · cases he
      show Always _ _ (if _ then _ else _ : Operation Draft).outcome _
      split
      · next hstate =>
        exact ⟨hsame rfl, fun _ => ⟨⟨_, rfl⟩, halerting⟩, fun _ => .inl (.inr ⟨a, hfound, hstate⟩)⟩
      · next hstate =>
        have hallowed : ¬ (act action id).Rejected t.ground.site.objects := by
          simpa [Rejected, hfound] using hstate
        rw [Operation.always_bind]
        apply (always_prepare a action _).mono
        rintro (e | _) t' ⟨hagrees, hfailed⟩
        · exact ⟨hagrees, fun h => absurd h hallowed, fun _ => .inr (hfailed ⟨e, rfl⟩)⟩
        · refine ⟨hagrees, fun h => absurd h hallowed, ?_⟩
          rintro ⟨e, ⟨⟩⟩

end Request

/-- A change is made, or fails with the call that should make it and leaves nothing behind. -/
theorem Draft.always_perform_noted (d : Draft) {s t : Tally} (hagrees : s.Agrees t)
    (l : List Reply) : Always Tally.answering.noted (fun r u => (∃ e, r = .error e) →
      s.Agrees u.1 ∧ ∃ x ∈ u.2, x.failed = true) d.perform.outcome (t, l) := by
  have hnotify (u : Tally × List Reply) : Always Tally.answering.noted
      (fun r u => (∃ e, r = .error e) → s.Agrees u.1 ∧ ∃ x ∈ u.2, x.failed = true)
      (Operation.outcome (d.topics.forM Operation.notify)) u := by
    rw [forM_notify]
    exact Operation.always_lift.2 (Program.always_iff.2 fun _ _ _ => nofun)
  -- Whichever change is made, the call makes it or fails, and what follows cannot fail.
  have hwrites {c : Call} {x : c.Answer} {y : Except Error Unit} {u : Tally}
      {change : Except Error Objects} (hsite : t.ground.site.Writes change y u.ground.site)
      (hbus : u.ground.bus = t.ground.bus) (hcounters : u.counters = t.counters)
      (hfailed : c.failed x = !y.isOk) : Always Tally.answering.noted
        (fun r u => (∃ e, r = .error e) → s.Agrees u.1 ∧ ∃ x ∈ u.2, x.failed = true)
        (ExceptT.bindCont (fun _ => d.topics.forM Operation.notify) y) (u, l ++ [⟨c, x⟩]) := by
    obtain ⟨o, -, rfl, -⟩ | ⟨e, rfl, hs⟩ := hsite
    · exact hnotify _
    · rintro -
      refine ⟨⟨?_, hbus.trans hagrees.bus, hcounters.trans hagrees.counters⟩, ⟨c, x⟩, ?_, hfailed⟩
      · rw [hs, hagrees.objects]
      · exact List.mem_append_right l (List.mem_singleton_self _)
  unfold perform
  cases d.edit with
  | create _ | update _ | deleteAlert _ | deleteRecipient _ =>
    rintro x ⟨u, l'⟩ ⟨⟨⟨hsite, -, hbus⟩, hcounters⟩, rfl⟩
    exact hwrites hsite hbus hcounters rfl

/-- Whatever is stored, notified and counted, and whatever is answered: a request that ends with an
error leaves the stored objects, the bus and the counters as they were, and was rejected or one of
its calls failed; and a request that is rejected ends with an error without a call to the alerting
backend. -/
theorem unchanged_of_error {q : Request} {s t : Tally} {r : Except Error Unit} {l : List Reply}
    (hrun : q.operation.outcome.Runs Tally.answering.noted (s, []) r (t, l)) :
    ((∃ e, r = .error e) → s.Agrees t ∧
      (q.Rejected s.ground.site.objects ∨ ∃ x ∈ l, x.failed = true)) ∧
    (q.Rejected s.ground.site.objects →
      (∃ e, r = .error e) ∧ ∀ x ∈ l, x.call.isAlerting = false) := by
  have hjudged : Always Tally.answering.noted (fun r t => ((∃ e, r = .error e) → s.Agrees t.1) ∧
      q.Judged s.ground.site.objects r t.2) q.operation.outcome (s, []) := by
    rw [q.operation_eq, Operation.always_bind]
    apply q.judged_draft.mono
    rintro (e | d) ⟨t, l⟩ ⟨hagrees, hjudged⟩
    · exact ⟨fun _ => hagrees, fun h => ⟨⟨e, rfl⟩, (hjudged.rejected h).2⟩,
        fun _ => hjudged.failed ⟨e, rfl⟩⟩
    · -- Who has decided on a change was not rejected.
      have hallowed : ¬ q.Rejected s.ground.site.objects := by
        intro h
        obtain ⟨⟨e, he⟩, -⟩ := hjudged.rejected h
        nomatch he
      apply (d.always_perform_noted hagrees l).mono
      intro r u hperformed
      exact ⟨fun h => (hperformed h).1, fun h => absurd h hallowed,
        fun h => .inr (hperformed h).2⟩
  obtain ⟨hagrees, hrejected, hfailed⟩ := Program.always_iff.1 hjudged r (t, l) hrun
  exact ⟨fun h => ⟨hagrees h, hfailed h⟩, hrejected⟩

/-- An alert and its recipient are stored, some alerts are silenced, and nothing else has
happened. -/
def sampleTally (a : Alert) (silences : Finset (String × String)) : Tally :=
  ⟨⟨(Contents.sample a).site silences, .empty, .fresh⟩, .zero⟩

/-- What the store replies to whoever looks that alert up. -/
def sampleReply (a : Alert) : Reply := ⟨.get .alert a.id, .ok (some ⟨.alert, a.id, a.payload⟩)⟩

/-- The alert without its silence. -/
def unsilenced (a : Alert) : Alert := { a with state := .active }

/-- What the alerting backend replies when it has removed the silence. -/
def removedReply (a : Alert) : Reply := ⟨.removeSilence a, .ok ()⟩

/-- What the store replies when it fails to store the alert without its silence. -/
def unstoredReply (a : Alert) (e : Error) : Reply :=
  ⟨.update .alert a.id (unsilenced a).payload, .error e⟩

theorem readIn_sampleTally (a : Alert) (w : Finset (String × String)) :
    Shelf.alerts.readIn (sampleTally a w).ground.site.objects a.id = .ok a :=
  Shelf.alerts.readIn_objects (Contents.find?_sample a)

/-- The alert may be found. -/
theorem runs_alert_sampleTally (a : Alert) (w : Finset (String × String)) :
    (Registry.alert a.id).outcome.Runs Tally.answering.noted (sampleTally a w, []) (.ok a)
      (sampleTally a w, [sampleReply a]) := by
  have hfound : (Contents.sample a).objects.get? .alert a.id = some ⟨.alert, a.id, a.payload⟩ := by
    have hget := Shelf.alerts.get?_objects (Contents.sample a) a.id
    rw [show Shelf.alerts.values (Contents.sample a) = (Contents.sample a).alerts from rfl,
      Contents.find?_sample] at hget
    exact hget
  have hpayload : (Registry.payload .alert a.id).outcome.Runs Tally.answering.noted
      (sampleTally a w, []) (.ok a.payload) (sampleTally a w, [sampleReply a]) :=
    ⟨.ok (some ⟨.alert, a.id, a.payload⟩), (sampleTally a w, [sampleReply a]),
      ⟨⟨⟨⟨rfl, .inl (congrArg Except.ok hfound.symm)⟩, rfl, rfl⟩, rfl⟩, rfl⟩, rfl, rfl⟩
  apply Operation.runs_bind hpayload
  rw [Alert.ofPayload_payload]
  exact ⟨rfl, rfl⟩

/-- Silencing the alert may be refused. -/
theorem runs_silence_sampleTally {a : Alert} (hstate : a.state ≠ .active)
    (w : Finset (String × String)) : ∃ l,
    (Request.operation (.act .silence a.id)).outcome.Runs Tally.answering.noted
      (sampleTally a w, []) (.error (.refused a.id a.state .silence)) (sampleTally a w, l) := by
  refine ⟨[sampleReply a], ?_⟩
  have hdraft : (Request.draft (.act .silence a.id)).outcome.Runs Tally.answering.noted
      (sampleTally a w, []) (.error (.refused a.id a.state .silence))
      (sampleTally a w, [sampleReply a]) := by
    apply Operation.runs_bind (runs_alert_sampleTally a w)
    rw [AlertAction.source, if_pos hstate]
    exact ⟨rfl, rfl⟩
  rw [Request.operation_eq]
  exact Program.runs_bind hdraft ⟨rfl, rfl⟩

/-- Unsilencing the alert may remove the silence and then fail to store that. -/
theorem runs_unsilence_sampleTally {a : Alert} (hstate : a.state = .suppressed)
    (w : Finset (String × String)) (e : Error) : ∃ l,
    (Request.operation (.act .unsilence a.id)).outcome.Runs Tally.answering.noted
      (sampleTally a w, []) (.error e) (sampleTally a (w.erase a.silence), l) := by
  refine ⟨[sampleReply a, removedReply a, unstoredReply a e], ?_⟩
  have hprepare : (Lifecycle.prepare a .unsilence).outcome.Runs Tally.answering.noted
      (sampleTally a w, [sampleReply a]) (.ok ())
      (sampleTally a (w.erase a.silence), [sampleReply a, removedReply a]) :=
    Program.runs_ask_noted ⟨⟨.inl ⟨rfl, rfl⟩, rfl, rfl⟩, rfl⟩
  have hstore : (Edit.write (.update (.alert (unsilenced a)))).outcome.Runs Tally.answering.noted
      (sampleTally a (w.erase a.silence), [sampleReply a, removedReply a]) (.error e)
      (sampleTally a (w.erase a.silence), [sampleReply a, removedReply a, unstoredReply a e]) :=
    Program.runs_ask_noted ⟨⟨.inr ⟨e, rfl, rfl⟩, rfl, rfl⟩, rfl⟩
  have hperform : (Draft.perform ⟨.update (.alert (unsilenced a)), []⟩).outcome.Runs
      Tally.answering.noted (sampleTally a (w.erase a.silence), [sampleReply a, removedReply a])
      (.error e)
      (sampleTally a (w.erase a.silence), [sampleReply a, removedReply a, unstoredReply a e]) :=
    Program.runs_bind hstore ⟨rfl, rfl⟩
  rw [Request.operation_eq]
  refine Operation.runs_bind (a := ⟨.update (.alert (unsilenced a)), []⟩) ?_ hperform
  apply Operation.runs_bind (runs_alert_sampleTally a w)
  rw [AlertAction.source, if_neg (not_not_intro hstate)]
  exact Operation.runs_bind hprepare ⟨rfl, rfl⟩

/-- Silencing an alert that is not active is rejected without a call to the alerting backend. Where
unsilencing one fails because the store does, the silence is gone, and the objects, the bus and the
counters are as before. -/
theorem unchanged_of_error_silence :
    (∃ l : List Reply, (Request.operation (.act .silence "a1")).outcome.Runs Tally.answering.noted
        (sampleTally (.sample "a1" "e1" "r1" .enabled) ∅, [])
        (.error (.refused "a1" .enabled .silence))
        (sampleTally (.sample "a1" "e1" "r1" .enabled) ∅, l) ∧
      Request.Rejected (sampleTally (.sample "a1" "e1" "r1" .enabled) ∅).ground.site.objects
        (.act .silence "a1") ∧
      ∀ x ∈ l, x.call.isAlerting = false) ∧
    ∃ l : List Reply, (Request.operation (.act .unsilence "a1")).outcome.Runs
        Tally.answering.noted
        (sampleTally (.sample "a1" "e1" "r1" .suppressed) {("a1", "e1")}, [])
        (.error (.store "down")) (sampleTally (.sample "a1" "e1" "r1" .suppressed) ∅, l) ∧
      (sampleTally (.sample "a1" "e1" "r1" .suppressed) {("a1", "e1")}).Agrees
        (sampleTally (.sample "a1" "e1" "r1" .suppressed) ∅) ∧
      ∃ x ∈ l, x.failed = true := by
  constructor
  · obtain ⟨l, hrun⟩ :=
      runs_silence_sampleTally (a := .sample "a1" "e1" "r1" .enabled) (by decide) ∅
    have hrejected : Request.Rejected
        (sampleTally (.sample "a1" "e1" "r1" .enabled) ∅).ground.site.objects
        (.act .silence "a1") := .inr ⟨_, readIn_sampleTally _ ∅, by decide⟩
    exact ⟨l, hrun, hrejected, ((unchanged_of_error hrun).2 hrejected).2⟩
  · obtain ⟨l, hrun⟩ := runs_unsilence_sampleTally (a := .sample "a1" "e1" "r1" .suppressed) rfl
      {("a1", "e1")} (.store "down")
    have hread := readIn_sampleTally (.sample "a1" "e1" "r1" .suppressed) {("a1", "e1")}
    obtain ⟨hagrees, hrejected | hfailed⟩ := (unchanged_of_error hrun).1 ⟨_, rfl⟩
    · -- The request is allowed, so it is a call that failed.
      obtain ⟨e, he⟩ | ⟨b, hb, hstate⟩ := hrejected
      · nomatch he.symm.trans hread
      · obtain rfl := Except.ok.inj (hb.symm.trans hread)
        exact absurd rfl hstate
    · exact ⟨l, hrun, hagrees, hfailed⟩

end AlertSync
