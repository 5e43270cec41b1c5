import AlertSync.StopChannel
import Mathlib.Data.List.Induction

/-!
# Whom the stop signal reaches

Whatever happens to a stop signal, an observer reports the stop exactly if it was once sent while
somebody observed, and a wait ends without being woken exactly if that is so or the handle is gone
(`given_after`, `ends_iff`). So a stop that was stored is never taken back and reaches those too who
come when everybody who observed then is gone. One that was sent while nobody observed is lost, and
this is the only way to miss it (`reaches_iff_not_missed`).

That a wait misses no stop rests on the versions. An observer that asks for a change although it has
seen all there is has seen that it was not the stop (`StopObserver.Fits`), and a stop that is stored
has a version that nobody has seen.
-/

namespace AlertSync

/-- The signal, as far as loops know it, after something happened to it. -/
def StopSignal.act (s : StopSignal) : StopAct → StopSignal
  | .trigger => s.trigger
  | .release => s.release
  | .subscribe => s.subscribe
  | .clone i => if i < s.observers then s.cloneObserver else s
  | .drop i => if i < s.observers then s.dropObserver else s
  | .attend _ | .step _ | .giveUp _ => s

/-- The signal, as far as loops know it, after all that happened to it. -/
def StopSignal.after (history : List StopAct) : StopSignal := history.foldl StopSignal.act .fresh

/-- A wait of an observer: one that begins now, or the one that it left half way. -/
inductive StopObserver.Waits (o : StopObserver) : StopObserver → Prop
  | begun : o.Waits o.attend
  | resumed (h : o.attention ≠ .idle) : o.Waits o

/-- How what an observer has seen fits the channel. -/
structure StopObserver.Fits (c : StopChannel) (o : StopObserver) : Prop where
  seen_le : o.seen ≤ c.version
  /-- What it has seen when it asks for a change was not the stop. -/
  not_given (h : o.attention = .asking) (hseen : o.seen = c.version) : c.given = false

namespace StopChannel

/-- The channel after all that happened to it. -/
def after (history : List StopAct) : StopChannel := history.foldl act fresh

/-- Whether the handle once sent the stop when the channel was in some way. -/
def SentWhen (p : StopChannel → Prop) (history : List StopAct) : Prop :=
  ∃ before rest, history = before ++ .trigger :: rest ∧ (after before).held = true ∧
    p (after before)

/-- Whether the stop was sent. -/
def Sent (history : List StopAct) : Prop := SentWhen (fun _ => True) history

/-- Whether the stop was sent while somebody observed. -/
def Heard (history : List StopAct) : Prop := SentWhen (fun c => c.observers ≠ []) history

/-- Whether a wait that is left to itself ends without being woken. -/
def Ends (c : StopChannel) (w : StopObserver) : Prop := (c.settle w).attention = .idle

/-- Once it was sent the stop has reached every observer there is, and before that none. -/
structure Reaches (history : List StopAct) : Prop where
  sent (h : Sent history) : ∀ o ∈ (after history).observers,
    (after history).reports o = true ∧ ∀ w, o.Waits w → (after history).Ends w
  unsent (h : ¬ Sent history) : ∀ o ∈ (after history).observers,
    (after history).reports o = false ∧
      ∀ w, o.Waits w → (after history).Ends w → .release ∈ history

variable {c : StopChannel} {o o' w : StopObserver} {history : List StopAct} {a : StopAct}

theorem after_snoc (history : List StopAct) (a : StopAct) :
    after (history ++ [a]) = (after history).act a := by
  rw [after, List.foldl_append]
  rfl

/-- The handle stores the stop, if it is there and somebody observes. -/
theorem trigger_eq (c : StopChannel) : c.trigger =
    if c.held = true ∧ c.observers ≠ [] then { c with given := true, version := c.version + 1 }
    else c := by
  by_cases hheld : c.held = true <;> by_cases hnone : c.observers = [] <;>
    simp [trigger, send, hheld, hnone]

theorem held_trigger (c : StopChannel) : c.trigger.held = c.held := by
  rw [trigger_eq]
  split <;> rfl

theorem observers_trigger (c : StopChannel) : c.trigger.observers = c.observers := by
  rw [trigger_eq]
  split <;> rfl

/-! ## Waits -/

theorem settle_of_none (h : c.step? o = none) : c.settle o = o := by
  rw [settle]
  split
  · rfl
  · next h' => exact absurd (h'.symm.trans h) (Option.some_ne_none _)

theorem settle_of_some (h : c.step? o = some o') : c.settle o = c.settle o' := by
  rw [settle]
  split
  · next h' => exact absurd (h.symm.trans h') (Option.some_ne_none _)
  · next h' => rw [Option.some.inj (h.symm.trans h')]

theorem step?_idle (h : o.attention = .idle) : c.step? o = none := by
  rw [step?, h]

theorem step?_looking (h : o.attention = .looking) :
    c.step? o = some ⟨c.version, if c.given then .idle else .asking⟩ := by
  rw [step?, h]

theorem step?_asking (h : o.attention = .asking) :
    c.step? o = if o.seen ≠ c.version then some ⟨c.version, .looking⟩
      else if c.held then none else some o.giveUp := by
  rw [step?, h]

/-- An observer that asks for a change and has seen all there is has to be woken, unless the handle
is gone. -/
theorem ends_iff_of_seen (h : w.attention = .asking) (hseen : w.seen = c.version) :
    c.Ends w ↔ c.held = false := by
  have hstep := c.step?_asking h
  rw [if_neg (not_not_intro hseen)] at hstep
  cases hheld : c.held with
  | true =>
    rw [hheld] at hstep
    rw [Ends, settle_of_none hstep, h]
    exact ⟨nofun, nofun⟩
  | false =>
    rw [hheld] at hstep
    rw [Ends, settle_of_some hstep, settle_of_none (step?_idle rfl)]
    exact ⟨fun _ => rfl, fun _ => rfl⟩

/-- An observer that looks at the value goes on only if it is not the stop. -/
theorem ends_iff_of_looking (h : w.attention = .looking) :
    c.Ends w ↔ c.given = true ∨ c.held = false := by
  rw [Ends, settle_of_some (step?_looking h)]
  cases hgiven : c.given with
  | true =>
    rw [settle_of_none (step?_idle rfl)]
    exact ⟨fun _ => .inl rfl, fun _ => rfl⟩
  | false =>
    refine (ends_iff_of_seen rfl rfl).trans ?_
    exact ⟨.inr, fun h => h.resolve_left Bool.false_ne_true⟩

/-- A wait ends without being woken exactly if the stop is stored or the handle is gone. -/
theorem ends_iff (hfits : w.Fits c) (h : w.attention ≠ .idle) :
    c.Ends w ↔ c.given = true ∨ c.held = false := by
  cases hattention : w.attention with
  | idle => exact absurd hattention h
  | looking => exact ends_iff_of_looking hattention
  | asking =>
    by_cases hseen : w.seen = c.version
    · rw [ends_iff_of_seen hattention hseen, hfits.not_given hattention hseen]
      exact ⟨.inr, fun h => h.resolve_left Bool.false_ne_true⟩
    · -- There is a change that it has not seen, so it looks once more.
      have hstep : c.step? w = some ⟨c.version, .looking⟩ := by
        rw [step?_asking hattention, if_pos hseen]
      rw [Ends, settle_of_some hstep]
      exact ends_iff_of_looking rfl

/-! ## What observers have seen -/

/-- An observer fits, whatever it has left of a wait, if it does not ask for a change. -/
theorem fits_of_ne_asking (h : o.Fits c) {attention : Attention} (hne : attention ≠ .asking) :
    StopObserver.Fits c { o with attention := attention } :=
  ⟨h.seen_le, fun hasking => absurd hasking hne⟩

/-- A step of a wait keeps an observer fitting. -/
theorem fits_step? (h : o.Fits c) (hstep : c.step? o = some o') : o'.Fits c := by
  cases hattention : o.attention with
  | idle => nomatch hstep.symm.trans (step?_idle hattention)
  | looking =>
    obtain rfl := Option.some.inj ((step?_looking hattention).symm.trans hstep)
    refine ⟨Nat.le_refl _, fun hasking _ => ?_⟩
    cases hgiven : c.given with
    | false => rfl
    | true => simp [hgiven] at hasking
  | asking =>
    rw [step?_asking hattention] at hstep
    split at hstep
    · obtain rfl := Option.some.inj hstep
      exact ⟨Nat.le_refl _, nofun⟩
    · split at hstep
      · nomatch hstep
      · obtain rfl := Option.some.inj hstep
        exact fits_of_ne_asking h nofun

/-- Whatever happens leaves an observer fitting: nobody has seen a value that is stored now. -/
theorem fits_act (h : o.Fits c) (a : StopAct) : o.Fits (c.act a) := by
  cases a with
  | trigger =>
    show o.Fits c.trigger
    rw [trigger_eq]
    split
    · -- The version of what is stored now is above all that were seen.
      have hnew : o.seen < c.version + 1 := Nat.lt_succ_of_le h.seen_le
      exact ⟨Nat.le_of_lt hnew, fun _ hseen => absurd hseen (Nat.ne_of_lt hnew)⟩
    · exact h
  | release | subscribe | clone | drop | attend | step | giveUp => exact ⟨h.seen_le, h.not_given⟩

/-- Who observes after one of the observers has changed was among them, or is that one. -/
theorem mem_modifyObserver {i : Nat} {f : StopObserver → StopObserver}
    (h : o ∈ (c.modifyObserver i f).observers) : ∃ o' ∈ c.observers, o = o' ∨ o = f o' := by
  change o ∈ c.observers.modify i f at h
  obtain ⟨j, hj⟩ := List.mem_iff_getElem?.1 h
  rw [List.getElem?_modify] at hj
  obtain ⟨o', ho', rfl⟩ := Option.map_eq_some_iff.1 hj
  refine ⟨o', List.mem_of_getElem? ho', ?_⟩
  split
  · exact .inr rfl
  · exact .inl rfl

/-- Who comes to observe, or goes on with its wait, fits. -/
theorem fits_of_mem_act (h : ∀ o ∈ c.observers, o.Fits c) (ho : o ∈ (c.act a).observers) :
    o.Fits c := by
  cases a with
  | trigger => exact h o (c.observers_trigger ▸ ho)
  | release => exact h o ho
  | subscribe =>
    change o ∈ (if c.held then _ else _ : List StopObserver) at ho
    split at ho
    · obtain hmem | hnew := List.mem_append.1 ho
      · exact h o hmem
      · obtain rfl := List.mem_singleton.1 hnew
        exact ⟨Nat.le_refl _, nofun⟩
    · exact h o ho
  | clone i =>
    obtain hmem | hnew := List.mem_append.1 ho
    · exact h o hmem
    · obtain ⟨o', ho', rfl⟩ := Option.map_eq_some_iff.1 (Option.mem_toList.1 hnew)
      exact fits_of_ne_asking (h o' (List.mem_of_getElem? ho')) nofun
  | drop i => exact h o (List.mem_of_mem_eraseIdx ho)
  | attend i | giveUp i =>
    obtain ⟨o', ho', rfl | rfl⟩ := mem_modifyObserver ho
    · exact h o ho'
    · exact fits_of_ne_asking (h o' ho') nofun
  | step i =>
    obtain ⟨o', ho', rfl | rfl⟩ := mem_modifyObserver ho
    · exact h o ho'
    · cases hstep : c.step? o' with
      | none => exact h o' ho'
      | some o'' => exact fits_step? (h o' ho') hstep

/-- After any history every observer fits. -/
theorem fits_after (history : List StopAct) :
    ∀ o ∈ (after history).observers, o.Fits (after history) := by
  induction history using List.reverseRecOn with
  | nil =>
    intro o ho
    obtain rfl := List.mem_singleton.1 ho
    exact ⟨Nat.le_refl _, nofun⟩
  | append_singleton history a ih =>
    rw [after_snoc]
    exact fun o ho => fits_act (fits_of_mem_act ih ho) a

/-! ## What the channel keeps -/

/-- What is stored is the stop if it was so before, or is sent now while somebody observes. -/
theorem given_act : (c.act a).given = true ↔
    c.given = true ∨ a = .trigger ∧ c.held = true ∧ c.observers ≠ [] := by
  cases a with
  | trigger =>
    show c.trigger.given = true ↔ _
    rw [trigger_eq]
    split
    · next hstored => exact ⟨fun _ => .inr ⟨rfl, hstored⟩, fun _ => rfl⟩
    · next hlost => exact ⟨.inl, fun h => h.resolve_right fun h => hlost h.2⟩
  | release | subscribe | clone | drop | attend | step | giveUp =>
    exact ⟨.inl, fun h => h.resolve_right fun h => nomatch h.1⟩

/-- The handle is there as long as it is not dropped. -/
theorem held_act : (c.act a).held = true ↔ c.held = true ∧ a ≠ .release := by
  cases a with
  | trigger => exact ⟨fun h => ⟨c.held_trigger ▸ h, nofun⟩, fun h => c.held_trigger.trans h.1⟩
  | release => exact ⟨nofun, fun h => absurd rfl h.2⟩
  | subscribe | clone | drop | attend | step | giveUp => exact ⟨fun h => ⟨h, nofun⟩, And.left⟩

theorem sentWhen_snoc {p : StopChannel → Prop} : SentWhen p (history ++ [a]) ↔
    SentWhen p history ∨ a = .trigger ∧ (after history).held = true ∧ p (after history) := by
  constructor
  · rintro ⟨before, rest, hhistory, hheld, hp⟩
    -- What follows the sending is empty, or the new act ends it.
    obtain rfl | ⟨rest, b, rfl⟩ := List.eq_nil_or_concat rest
    · obtain ⟨rfl, ha⟩ := List.append_inj' hhistory rfl
      exact .inr ⟨(List.cons.inj ha).1, hheld, hp⟩
    · refine .inl ⟨before, rest, ?_, hheld, hp⟩
      rw [List.concat_eq_append, ← List.cons_append, ← List.append_assoc] at hhistory
      exact (List.append_inj' hhistory rfl).1
  · rintro (⟨before, rest, rfl, hheld, hp⟩ | ⟨rfl, hheld, hp⟩)
    · exact ⟨before, rest ++ [a], by simp, hheld, hp⟩
    · exact ⟨history, [], rfl, hheld, hp⟩

/-- A stop is stored exactly if it was once sent while somebody observed. -/
theorem given_after (history : List StopAct) : (after history).given = true ↔ Heard history := by
  induction history using List.reverseRecOn with
  | nil => exact ⟨nofun, fun ⟨_, _, hhistory, _⟩ => by simp at hhistory⟩
  | append_singleton history a ih =>
    rw [after_snoc, given_act, ih]
    exact sentWhen_snoc.symm

/-- The handle is gone exactly if it was dropped. -/
theorem held_after (history : List StopAct) :
    (after history).held = false ↔ .release ∈ history := by
  induction history using List.reverseRecOn with
  | nil => exact ⟨nofun, nofun⟩
  | append_singleton history a ih =>
    rw [after_snoc, ← Bool.not_eq_true, held_act, not_and_or, Bool.not_eq_true, ih, not_not]
    simp [eq_comm]

/-- A stop that was heard was sent. -/
theorem sent_of_heard (h : Heard history) : Sent history := by
  obtain ⟨before, rest, hhistory, hheld, -⟩ := h
  exact ⟨before, rest, hhistory, hheld, trivial⟩

/-- What loops know of the channel changes as the channel does. -/
theorem summary_act (c : StopChannel) (a : StopAct) : (c.act a).summary = c.summary.act a := by
  cases a with
  | trigger =>
    by_cases hheld : c.held = true <;> by_cases hnone : c.observers = [] <;>
      simp [act, trigger_eq, summary, StopSignal.act, StopSignal.trigger, hheld, hnone]
  | subscribe =>
    by_cases hheld : c.held = true <;>
      simp [act, subscribe, summary, StopSignal.act, StopSignal.subscribe, hheld]
  | clone i =>
    show StopSignal.mk _ _ _ = if i < c.observers.length then _ else _
    split
    · next hi =>
      have hsome : c.observers.length ≠ 0 := Nat.ne_of_gt (Nat.zero_lt_of_lt hi)
      simp [act, cloneObserver, summary, StopSignal.cloneObserver, hi, hsome]
    · next hi => simp [act, cloneObserver, summary, Nat.not_lt.1 hi]
  | drop i =>
    show StopSignal.mk _ _ _ = if i < c.observers.length then _ else _
    split
    · next hi => exact congrArg (StopSignal.mk _ _) (List.length_eraseIdx_of_lt hi)
    · next hi =>
      have hsame := List.eraseIdx_of_length_le (Nat.not_lt.1 hi)
      exact congrArg (StopSignal.mk _ _) (congrArg List.length hsame)
  | release => rfl
  | attend i | step i | giveUp i =>
    exact congrArg (StopSignal.mk _ _) (List.length_modify _ _ _)

/-- What loops know of the channel is a stop signal to which the same has happened. -/
theorem summary_after (history : List StopAct) :
    (after history).summary = StopSignal.after history := by
  induction history using List.reverseRecOn with
  | nil => rfl
  | append_singleton history a ih =>
    rw [after_snoc, summary_act, ih, StopSignal.after, StopSignal.after, List.foldl_append]
    rfl

/-! ## Whom it reaches -/

/-- Whether the stop was sent, but never while anybody observed, and somebody observes now. -/
def Missed (history : List StopAct) : Prop :=
  Sent history ∧ ¬ Heard history ∧ (after history).observers ≠ []

/-- What those who observe after a history find. -/
structure Observed (history : List StopAct) : Prop where
  /-- It is what loops know of the signal. -/
  summary : (after history).summary = StopSignal.after history
  reports : ∀ o ∈ (after history).observers, (after history).reports o = true ↔ Heard history
  ends : ∀ o ∈ (after history).observers, ∀ w, o.Waits w →
    ((after history).Ends w ↔ Heard history ∨ .release ∈ history)

/-- A wait of an observer that fits ends without being woken exactly if the stop is stored or the
handle is gone. -/
theorem ends_iff_of_waits (hfits : o.Fits c) (h : o.Waits w) :
    c.Ends w ↔ c.given = true ∨ c.held = false := by
  cases h with
  | begun => exact ends_iff (fits_of_ne_asking hfits nofun) nofun
  | resumed h => exact ends_iff hfits h

/-- After any history an observer reports the stop exactly if it was heard, and its waits end
exactly if it was heard or the handle was dropped. -/
theorem observed (history : List StopAct) : Observed history where
  summary := summary_after history
  reports _ _ := given_after history
  ends o ho w h := by
    rw [ends_iff_of_waits (fits_after history o ho) h, given_after, held_after]

/-- In any history a stop that is heard once stays so for all who observe then or later, whatever
becomes of their waits; it reaches everybody whom it should, unless it was missed. -/
theorem reaches_iff_not_missed (history : List StopAct) :
    Observed history ∧ (Reaches history ↔ ¬ Missed history) := by
  have hobserved := observed history
  refine ⟨hobserved, fun hreaches ⟨hsent, hunheard, hobservers⟩ => ?_, fun hmissed => ⟨?_, ?_⟩⟩
  · obtain ⟨o, ho⟩ := List.exists_mem_of_ne_nil _ hobservers
    exact hunheard ((hobserved.reports o ho).1 (hreaches.sent hsent o ho).1)
  · -- Whoever observes now would have missed a stop that was sent and not heard.
    intro hsent o ho
    have hheard : Heard history := by
      by_contra hunheard
      exact hmissed ⟨hsent, hunheard, List.ne_nil_of_mem ho⟩
    exact ⟨(hobserved.reports o ho).2 hheard, fun w h => (hobserved.ends o ho w h).2 (.inl hheard)⟩
  · intro hunsent o ho
    have hunheard : ¬ Heard history := mt sent_of_heard hunsent
    refine ⟨Bool.eq_false_iff.2 (mt (hobserved.reports o ho).1 hunheard), fun w h hends => ?_⟩
    exact ((hobserved.ends o ho w h).1 hends).resolve_left hunheard

/-- An observer is left in the middle of a wait when the stop is sent, and dropped; another one
comes. -/
def lateHistory : List StopAct := [.attend 0, .step 0, .trigger, .drop 0, .subscribe]

/-- Who comes when everybody is gone who heard the stop finds it all the same. -/
theorem reaches_iff_not_missed_late :
    (after lateHistory).observers = [⟨1, .idle⟩] ∧ Reaches lateHistory := by
  have hheard : Heard lateHistory := ⟨[.attend 0, .step 0], [.drop 0, .subscribe], rfl, rfl, nofun⟩
  exact ⟨rfl, (reaches_iff_not_missed lateHistory).2.2 fun hmissed => hmissed.2.1 hheard⟩

/-- Who comes after the stop was sent to nobody does not find it. -/
theorem not_reaches_unheard : ¬ Reaches [.drop 0, .trigger, .subscribe] := by
  intro h
  have hsent : Sent [.drop 0, .trigger, .subscribe] := ⟨[.drop 0], [.subscribe], rfl, rfl, trivial⟩
  have hreports : false = true := (h.sent hsent ⟨0, .idle⟩ (.head _)).1
  nomatch hreports

end StopChannel

end AlertSync
