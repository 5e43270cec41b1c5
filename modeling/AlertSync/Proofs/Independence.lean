import AlertSync.Proofs.Looking
import AlertSync.Proofs.Success
import AlertSync.Simulation

/-!
# Each alert by itself

A tick settles the alerts one after the other, and what becomes of one of them does not depend on
what became of the others, whichever calls fail. Who answers is a `Responder`: it reports some live
alerts, keeps some objects, and makes the calls fail that it is to fail. What a tick then does is
computed: settling one alert changes the objects at most at the id of the alert
(`Responder.settled`) and makes the calls `Responder.callsFor` the alert (`run_settle`); from this
follows by induction over the alerts what the whole tick leaves and calls (`Responder.Settles`,
`settles_of_ownIds`, `settles_of_readAll`).
-/

namespace AlertSync

/-- Whether a call is about a silence. -/
def Call.isSilencing : Call → Bool
  | addSilence _ | removeSilence _ => true
  | _ => false

/-- A call about a silence changes the site. -/
theorem Call.changesSite_of_isSilencing {c : Call} (h : c.isSilencing = true) :
    c.changesSite = true := by
  cases c <;> first | rfl | nomatch h

/-- A call that writes to the store changes the site. -/
theorem Call.changesSite_of_writesStore {c : Call} (h : c.writesStore = true) :
    c.changesSite = true := by
  cases c <;> first | rfl | nomatch h

namespace Alert

variable {a : Alert} {live : List LiveAlert}

/-- An alert of which nothing new was observed is as it was. -/
theorem reconcile_of_unchanged (h : (a.reconcile live).changed = false) :
    (a.reconcile live).alert = a := by
  change (decide (_ ≠ a.state) || decide (_ ≠ a.startsAt) || decide (_ ≠ a.endsAt)) = false at h
  simp only [Bool.or_eq_false_iff, decide_eq_false_iff_not, not_not] at h
  obtain ⟨⟨hstate, hstarts⟩, hends⟩ := h
  show { a with state := _, startsAt := _, endsAt := _ } = a
  rw [hstate, hstarts, hends]

/-- A silence is left over if the alert was suppressed and no longer fires. -/
theorem removeSilence_reconcile (a : Alert) (live : List LiveAlert) :
    (a.reconcile live).removeSilence =
      (a.state == .suppressed && (a.observed? live).isNone) := by
  show (a.state == .suppressed && observedState (a.observed? live) == .enabled) = _
  cases a.observed? live with
  | none => rfl
  | some l =>
    rw [observedState]
    split <;> rfl

/-- Where a silence is left over, something new was observed. -/
theorem changed_of_removeSilence (h : (a.reconcile live).removeSilence = true) :
    (a.reconcile live).changed = true := by
  rw [removeSilence_reconcile, Bool.and_eq_true, beq_iff_eq, Option.isNone_iff_eq_none] at h
  have hmoved : observedState (a.observed? live) ≠ a.state := by
    rw [h.1, h.2]
    decide
  show (decide (observedState (a.observed? live) ≠ a.state) || _ || _) = true
  rw [decide_eq_true hmoved]
  rfl

end Alert

/-- Who answers the calls of a tick: the live alerts that are reported, which calls fail and why,
and the answers to calls that concern neither. -/
structure Responder where
  live : List LiveAlert
  fault? : Call → Option Error
  told : (c : Call) → c.Answer

namespace Responder

/-- An answer, unless the call is to fail. -/
def attempt {α : Type} (fault : Option Error) (x : Except Error α) : Except Error α :=
  match fault with
  | some e => .error e
  | none => x

/-- A change of the objects, unless the call is to fail or they do not admit it. -/
def change (o : Objects) (x : Except Error Objects) : Except Error Unit × Objects :=
  match x with
  | .ok o' => (.ok (), o')
  | .error e => (.error e, o)

/-- What a call is answered with, and what it makes of the objects. -/
def respond (p : Responder) (c : Call) (o : Objects) : c.Answer × Objects :=
  match c with
  | .list kind => (attempt (p.fault? (.list kind)) (.ok (o.list kind)), o)
  | .get kind id => (attempt (p.fault? (.get kind id)) (.ok (o.get? kind id)), o)
  | .create kind id payload =>
    change o (attempt (p.fault? (.create kind id payload)) (o.create kind id payload))
  | .update kind id payload =>
    change o (attempt (p.fault? (.update kind id payload)) (o.update kind id payload))
  | .delete kind id => change o (attempt (p.fault? (.delete kind id)) (o.delete kind id))
  | .liveAlerts => (attempt (p.fault? .liveAlerts) (.ok p.live), o)
  | .addSilence a => (attempt (p.fault? (.addSilence a)) (.ok ()), o)
  | .removeSilence a => (attempt (p.fault? (.removeSilence a)) (.ok ()), o)
  | c => (p.told c, o)

/-- What a call is answered with, if the calls are noted. -/
def answer (p : Responder) (c : Call) (s : Objects × List Call) :
    c.Answer × (Objects × List Call) :=
  ((p.respond c s.1).1, (p.respond c s.1).2, s.2 ++ [c])

/-- What a tick comes to, what it leaves and which calls it makes. -/
def tick (p : Responder) (o : Objects) : Except Error Outcome × (Objects × List Call) :=
  Synchronizer.syncStates.outcome.run p.answer (o, [])

/-- A change that is made unless the call fails is made at a site as well. -/
theorem writes_change (o : Objects) (w : Finset (String × String)) (fault : Option Error)
    (x : Except Error Objects) :
    Site.Writes ⟨o, w⟩ x (change o (attempt fault x)).1 ⟨(change o (attempt fault x)).2, w⟩ := by
  cases fault with
  | some e => exact .inr ⟨e, rfl, rfl⟩
  | none =>
    cases x with
    | ok o' => exact .inl ⟨o', rfl, rfl, rfl⟩
    | error e => exact .inr ⟨e, rfl, rfl⟩

/-- A responder reads as a site does. -/
theorem reads_attempt {α : Type} (s : Site) (fault : Option Error) (found : α) :
    s.Reads found (attempt fault (.ok found)) s := by
  cases fault with
  | some e => exact ⟨rfl, .inr ⟨e, rfl⟩⟩
  | none => exact ⟨rfl, .inl rfl⟩

/-- A responder silences as a site does. -/
theorem exists_silences_attempt (o : Objects) (w after : Finset (String × String))
    (fault : Option Error) : ∃ w', Site.Silences ⟨o, w⟩ after (attempt fault (.ok ())) ⟨o, w'⟩ := by
  cases fault with
  | some e => exact ⟨w, .inr ⟨e, rfl, rfl⟩⟩
  | none => exact ⟨after, .inl ⟨rfl, rfl⟩⟩

/-- What a responder answers is an answer that a site with its objects allows. -/
theorem exists_effect (p : Responder) (c : Call) (o : Objects) (w : Finset (String × String)) :
    ∃ w', Site.Effect ⟨o, w⟩ c (p.respond c o).1 ⟨(p.respond c o).2, w'⟩ := by
  cases c with
  | list _ | get _ _ => exact ⟨w, reads_attempt ⟨o, w⟩ _ _⟩
  | create _ _ _ | update _ _ _ | delete _ _ => exact ⟨w, writes_change o w _ _⟩
  | addSilence a => exact exists_silences_attempt o w (insert a.silence w) _
  | removeSilence a => exact exists_silences_attempt o w (w.erase a.silence) _
  | freshId | notify _ | count _ | counters | liveAlerts | reloadRoutes | reloadMetrics
  | environments | hosts _ | readFile _ | writeFile _ _ | moveFile _ _ | removeFile _ | pause _ =>
    exact ⟨w, rfl⟩

/-- What a program comes to with a responder is one of its runs at a site. -/
theorem exists_runs {α : Type} (p : Responder) (q : Program α) (o : Objects) (l : List Call)
    (w : Finset (String × String)) : ∃ w', q.Runs (Site.answering .none) ⟨o, w⟩
      (q.run p.answer (o, l)).1 ⟨(q.run p.answer (o, l)).2.1, w'⟩ := by
  induction q generalizing o l w with
  | done a => exact ⟨w, rfl, rfl⟩
  | call c next ih =>
    obtain ⟨w₁, heffect⟩ := p.exists_effect c o w
    obtain ⟨w₂, hrun⟩ := ih (p.respond c o).1 (p.respond c o).2 (l ++ [c]) w₁
    exact ⟨w₂, _, _, ⟨trivial, heffect⟩, hrun⟩

/-! ## One alert -/

variable (p : Responder) {o : Objects} {l : List Call}

/-- The call that stores what was observed of an alert. -/
def storing (a : Alert) : Call := .update .alert a.id (a.reconcile p.live).alert.payload

/-- Whether what was observed of an alert gets stored: it is new, and the call does not fail. -/
def stores (a : Alert) : Bool := (a.reconcile p.live).changed && (p.fault? (p.storing a)).isNone

/-- The objects after an alert was settled. -/
def settled (o : Objects) (a : Alert) : Objects :=
  if p.stores a then o.modify .alert fun m => m.insert a.id (a.reconcile p.live).alert.payload
  else o

/-- The calls by which the silence of an alert is removed. -/
def callsUnsilencing (a : Alert) : List Call :=
  .removeSilence a ::
    if (p.fault? (.removeSilence a)).isNone then [.count .silenceRemoved] else []

/-- The calls by which an alert is settled. -/
def callsFor (a : Alert) : List Call :=
  let r := a.reconcile p.live
  if r.changed then
    (if r.previous ≠ r.alert.state then [.count (.transition r.previous r.alert.state)] else []) ++
      (if r.removeSilence then p.callsUnsilencing r.alert else []) ++ [p.storing a]
  else []

/-- What a program comes to that begins with a call. -/
theorem run_ask_bind {α : Type} (c : Call) (f : c.Answer → Program α) (o : Objects)
    (l : List Call) : (Program.ask c >>= f).run p.answer (o, l) =
      (f (p.respond c o).1).run p.answer ((p.respond c o).2, l ++ [c]) := rfl

/-- What a program comes to after another. -/
theorem run_bind {α β : Type} (q : Program α) (f : α → Program β) (s : Objects × List Call) :
    (q >>= f).run p.answer s = (f (q.run p.answer s).1).run p.answer (q.run p.answer s).2 :=
  Program.run_bind p.answer q f s

/-- Removing a silence changes no object, whether it fails or not. -/
theorem run_unsilence (a : Alert) : (Synchronizer.unsilence a).run p.answer (o, l) =
    ((), o, l ++ p.callsUnsilencing a) := by
  unfold Synchronizer.unsilence callsUnsilencing
  have hrespond : p.respond (.removeSilence a) o =
      (attempt (p.fault? (.removeSilence a)) (.ok ()), o) := rfl
  rw [run_ask_bind, hrespond]
  cases p.fault? (.removeSilence a) with
  | some e => rfl
  | none =>
    show ((), o, (l ++ [Call.removeSilence a]) ++ [Call.count .silenceRemoved]) = _
    rw [List.append_assoc]
    rfl

/-- Storing what was observed of a stored alert changes its payload, or fails. -/
theorem run_storing {a : Alert} (hstored : o.alerts.contains a.id = true)
    (hchanged : (a.reconcile p.live).changed = true) :
    ((Registry.updateAlert (a.reconcile p.live).alert).outcome.run p.answer (o, l)).2 =
      (p.settled o a, l ++ [p.storing a]) := by
  have hupdate : o.update .alert a.id (a.reconcile p.live).alert.payload =
      .ok (o.modify .alert fun m => m.insert a.id (a.reconcile p.live).alert.payload) :=
    if_pos hstored
  show ((change o (attempt (p.fault? (p.storing a)) (o.update .alert a.id _))).2, _) = _
  rw [hupdate, settled, stores, hchanged]
  cases p.fault? (p.storing a) with
  | some e => rfl
  | none => rfl

/-- Settling a stored alert. -/
theorem run_settle {a : Alert} (hstored : o.alerts.contains a.id = true) :
    (Synchronizer.settle (a.reconcile p.live)).run p.answer (o, l) =
      ((), p.settled o a, l ++ p.callsFor a) := by
  unfold Synchronizer.settle callsFor
  by_cases hchanged : (a.reconcile p.live).changed = true
  · have hwrite (l' : List Call) : ((Registry.updateAlert (a.reconcile p.live).alert).outcome >>=
        fun _ => pure ()).run p.answer (o, l') = ((), p.settled o a, l' ++ [p.storing a]) := by
      rw [run_bind, p.run_storing hstored hchanged]
      rfl
    have hunsilence (l' : List Call) : (if (a.reconcile p.live).removeSilence then
        Synchronizer.unsilence (a.reconcile p.live).alert >>= fun _ =>
          (Registry.updateAlert (a.reconcile p.live).alert).outcome >>= fun _ => pure ()
        else (Registry.updateAlert (a.reconcile p.live).alert).outcome >>= fun _ =>
          pure ()).run p.answer (o, l') = ((), p.settled o a, l' ++
            ((if (a.reconcile p.live).removeSilence then
              p.callsUnsilencing (a.reconcile p.live).alert else []) ++ [p.storing a])) := by
      split
      · rw [run_bind, run_unsilence, hwrite, List.append_assoc]
      · exact hwrite l'
    rw [if_pos hchanged, if_pos hchanged, List.append_assoc]
    by_cases hmoved : (a.reconcile p.live).previous ≠ (a.reconcile p.live).alert.state
    · simp only [if_pos hmoved]
      rw [← List.append_assoc]
      exact hunsilence _
    · simp only [if_neg hmoved]
      exact hunsilence l
  · rw [if_neg hchanged, if_neg hchanged, List.append_nil, settled, stores,
      eq_false_of_ne_true hchanged]
    rfl

/-! ## All alerts -/

variable {p}

/-- What is found under an id after an alert was settled. -/
theorem find?_settled (o : Objects) (a : Alert) (id : String) :
    (p.settled o a).alerts.find? id = if id = a.id ∧ p.stores a = true
      then some (a.reconcile p.live).alert.payload else o.alerts.find? id := by
  unfold settled
  by_cases hstores : p.stores a = true
  · rw [if_pos hstores]
    show (o.alerts.insert a.id _).find? id = _
    rw [SortedMap.find?_insert]
    simp only [hstores, and_true]
  · rw [if_neg hstores, if_neg fun h => hstores h.2]

/-- Settling a stored alert stores no other. -/
theorem contains_settled {a : Alert} (hstored : o.alerts.contains a.id = true) (id : String) :
    (p.settled o a).alerts.contains id = o.alerts.contains id := by
  rw [SortedMap.contains_eq_isSome, SortedMap.contains_eq_isSome, find?_settled]
  split
  · next h =>
    rw [SortedMap.contains_eq_isSome] at hstored
    rw [h.1, hstored]
    rfl
  · rfl

/-- Settling changes no objects but alerts. -/
theorem shelf_settled {kind : Kind} (h : kind ≠ .alert) (o : Objects) (a : Alert) :
    (p.settled o a).shelf kind = o.shelf kind := by
  unfold settled
  split
  · rw [Objects.shelf_modify, if_neg h]
  · rfl

/-- Settling stored alerts one after the other settles each, and makes the calls for each. -/
theorem run_forM_settle {alerts : List Alert}
    (hstored : ∀ a ∈ alerts, o.alerts.contains a.id = true) (l : List Call) :
    (alerts.forM fun a => Synchronizer.settle (a.reconcile p.live)).run p.answer (o, l) =
      ((), alerts.foldl p.settled o, l ++ alerts.flatMap p.callsFor) := by
  induction alerts generalizing o l with
  | nil =>
    rw [List.flatMap_nil, List.append_nil]
    rfl
  | cons a alerts ih =>
    have ha := hstored a List.mem_cons_self
    show (Synchronizer.settle (a.reconcile p.live) >>= fun _ => alerts.forM _).run p.answer _ = _
    rw [run_bind, p.run_settle ha, List.flatMap_cons, ← List.append_assoc]
    apply ih
    intro b hb
    rw [contains_settled ha]
    exact hstored b (List.mem_cons_of_mem a hb)

/-- Under an id that none of the alerts has, the same is found after they were settled. -/
theorem find?_foldl_settled_of_notMem {alerts : List Alert} {id : String}
    (h : id ∉ alerts.map (·.id)) :
    (alerts.foldl p.settled o).alerts.find? id = o.alerts.find? id := by
  induction alerts generalizing o with
  | nil => rfl
  | cons a alerts ih =>
    rw [List.map_cons, List.mem_cons, not_or] at h
    rw [List.foldl_cons, ih h.2, find?_settled, if_neg fun heq => h.1 heq.1]

/-- What is found under the id of one of the alerts after they were settled depends on no other. -/
theorem find?_foldl_settled {alerts : List Alert} (hdistinct : (alerts.map (·.id)).Nodup)
    {a : Alert} (ha : a ∈ alerts) : (alerts.foldl p.settled o).alerts.find? a.id =
      if p.stores a then some (a.reconcile p.live).alert.payload else o.alerts.find? a.id := by
  induction alerts generalizing o with
  | nil => nomatch ha
  | cons b alerts ih =>
    rw [List.map_cons, List.nodup_cons] at hdistinct
    rw [List.foldl_cons]
    obtain rfl | ha := List.mem_cons.1 ha
    · -- The alerts that follow have other ids.
      rw [find?_foldl_settled_of_notMem hdistinct.1, find?_settled]
      simp only [true_and]
    · have hne : a.id ≠ b.id := fun heq => hdistinct.1 (heq ▸ List.mem_map_of_mem ha)
      have hother : (p.settled o b).alerts.find? a.id = o.alerts.find? a.id := by
        rw [find?_settled, if_neg fun heq => hne heq.1]
      rw [ih hdistinct.2 ha, hother]

/-- Settling stored alerts stores no others. -/
theorem contains_foldl_settled {alerts : List Alert}
    (hstored : ∀ a ∈ alerts, o.alerts.contains a.id = true) (id : String) :
    (alerts.foldl p.settled o).alerts.contains id = o.alerts.contains id := by
  induction alerts generalizing o with
  | nil => rfl
  | cons a alerts ih =>
    have ha := hstored a List.mem_cons_self
    rw [List.foldl_cons, ih, contains_settled ha]
    intro b hb
    rw [contains_settled ha]
    exact hstored b (List.mem_cons_of_mem a hb)

/-- Settling alerts changes no objects but alerts. -/
theorem shelf_foldl_settled {kind : Kind} (h : kind ≠ .alert) (alerts : List Alert) :
    (alerts.foldl p.settled o).shelf kind = o.shelf kind := by
  induction alerts generalizing o with
  | nil => rfl
  | cons a alerts ih => rw [List.foldl_cons, ih, shelf_settled h]

/-! ## The calls -/

/-- The only call about a silence for an alert removes the silence that is left over. -/
theorem filter_isSilencing_callsFor (a : Alert) :
    (p.callsFor a).filter Call.isSilencing = if (a.reconcile p.live).removeSilence
      then [.removeSilence (a.reconcile p.live).alert] else [] := by
  have hcount : (p.callsUnsilencing (a.reconcile p.live).alert).filter Call.isSilencing =
      [.removeSilence (a.reconcile p.live).alert] := by
    unfold callsUnsilencing
    split <;> rfl
  unfold callsFor
  by_cases hremove : (a.reconcile p.live).removeSilence = true
  · simp only [Alert.changed_of_removeSilence hremove, hremove, if_true, List.filter_append, hcount]
    split <;> rfl
  · simp only [hremove]
    split
    · split <;> rfl
    · rfl

/-- The only call for an alert that writes to the store stores what is new. -/
theorem filter_writesStore_callsFor (a : Alert) :
    (p.callsFor a).filter Call.writesStore = if (a.reconcile p.live).changed
      then [p.storing a] else [] := by
  have hcount : (p.callsUnsilencing (a.reconcile p.live).alert).filter Call.writesStore = [] := by
    unfold callsUnsilencing
    split <;> rfl
  unfold callsFor
  by_cases hchanged : (a.reconcile p.live).changed = true
  · have hunsilence : (if (a.reconcile p.live).removeSilence then
        p.callsUnsilencing (a.reconcile p.live).alert else []).filter Call.writesStore = [] := by
      split
      · exact hcount
      · rfl
    simp only [hchanged, if_true, List.filter_append, hunsilence]
    split <;> rfl
  · simp only [hchanged]
    rfl

/-- Calls that some alerts have one of, listed. -/
theorem filter_flatMap_callsFor {f : Call → Bool} {b : Alert → Bool} {g : Alert → Call}
    (h : ∀ a, (p.callsFor a).filter f = if b a then [g a] else []) (alerts : List Alert) :
    (alerts.flatMap p.callsFor).filter f = (alerts.filter b).map g := by
  induction alerts with
  | nil => rfl
  | cons a alerts ih =>
    rw [List.flatMap_cons, List.filter_append, h, ih, List.filter_cons]
    split <;> rfl

end Responder

/-! ## The whole tick -/

/-- Alerts that are stored under their own ids are listed under the ids that are stored. -/
theorem Objects.OwnIds.map_readAll {o : Objects} (h : o.OwnIds) {alerts : List Alert}
    (hread : Shelf.alerts.readAll o = .ok alerts) :
    alerts.map (fun a => (a.id, (Except.ok a : Except Error Alert))) =
      o.alerts.entries.map fun e => (e.1, Alert.ofPayload e.2) := by
  have hlist : alerts.map (fun a => (a.id, (Except.ok a : Except Error Alert))) =
      (o.list .alert).map fun object => (object.id, Alert.ofPayload object.payload) := by
    apply map_eq_map_of_mapM hread
    intro object hobject a ha
    obtain ⟨e, he, rfl⟩ := List.mem_map.1 hobject
    have hid : a.id = e.1 := h e.1 e.2 a (SortedMap.mem_entries_iff.1 he) ha
    exact Prod.ext hid ha.symm
  rw [hlist]
  exact List.map_map

/-- An alert that is listed is stored under its id. -/
theorem Objects.OwnIds.find?_of_mem {o : Objects} (h : o.OwnIds) {alerts : List Alert}
    (hread : Shelf.alerts.readAll o = .ok alerts) {a : Alert} (ha : a ∈ alerts) :
    ∃ payload, o.alerts.find? a.id = some payload ∧ Alert.ofPayload payload = .ok a := by
  have hmem : (a.id, (Except.ok a : Except Error Alert)) ∈
      o.alerts.entries.map fun e => (e.1, Alert.ofPayload e.2) := by
    rw [← h.map_readAll hread]
    exact List.mem_map.2 ⟨a, ha, rfl⟩
  obtain ⟨⟨id, payload⟩, he, heq⟩ := List.mem_map.1 hmem
  obtain ⟨rfl, hpayload⟩ := Prod.mk.inj heq
  exact ⟨payload, SortedMap.mem_entries_iff.1 he, hpayload⟩

/-- Whichever of the listed alerts are picked, they are stored. -/
theorem Objects.OwnIds.contains_of_mem_filter {o : Objects} (h : o.OwnIds) {alerts : List Alert}
    (hread : Shelf.alerts.readAll o = .ok alerts) (b : Alert → Bool) :
    ∀ a ∈ alerts.filter b, o.alerts.contains a.id = true := by
  intro a ha
  obtain ⟨payload, hpayload, -⟩ := h.find?_of_mem hread (List.mem_of_mem_filter ha)
  rw [SortedMap.contains_eq_isSome, hpayload]
  rfl

namespace Responder

/-- How a tick has gone that obtained the live alerts and a listing of the stored alerts: what it
left, and which calls it made. -/
structure Settles (p : Responder) (o : Objects) (alerts : List Alert) (o' : Objects)
    (calls : List Call) : Prop where
  /-- Every stored alert is listed. -/
  listed : ∀ id payload, o.alerts.find? id = some payload →
    ∃ a ∈ alerts, a.id = id ∧ Alert.ofPayload payload = .ok a
  /-- The listing is in the order of the ids. -/
  ordered : (alerts.map (·.id)).Pairwise (· < ·)
  /-- An alert that is not disabled ends up as it was observed, unless it could not be stored. -/
  observed : ∀ a ∈ alerts, a.isDisabled = false → p.fault? (p.storing a) = none →
    ∃ payload, o'.alerts.find? a.id = some payload ∧
      Alert.ofPayload payload = .ok (a.reconcile p.live).alert
  /-- Any other alert keeps its payload, and so does one of which nothing new was observed. -/
  kept : ∀ a ∈ alerts, a.isDisabled = true ∨ (a.reconcile p.live).changed = false ∨
    p.fault? (p.storing a) ≠ none → o'.alerts.find? a.id = o.alerts.find? a.id
  /-- The same alerts are stored as before. -/
  same : ∀ id, o'.alerts.contains id = o.alerts.contains id
  recipients : o'.recipients = o.recipients
  alertConfigs : o'.alertConfigs = o.alertConfigs
  /-- The silences are removed of the alerts that were suppressed and fire no more. -/
  unsilenced : calls.filter Call.isSilencing =
    (alerts.filter fun a => a.state == .suppressed && (a.observed? p.live).isNone).map
      fun a => .removeSilence (a.reconcile p.live).alert
  /-- The alerts are stored of which something new was observed. -/
  stored : calls.filter Call.writesStore =
    (alerts.filter fun a => !a.isDisabled && (a.reconcile p.live).changed).map p.storing

variable {p : Responder} {o : Objects}

/-- Settling all listed alerts that are not disabled goes as it should. -/
theorem settles_of_ownIds (hown : o.OwnIds) {alerts : List Alert}
    (hread : Shelf.alerts.readAll o = .ok alerts) {l : List Call}
    (hquiet : ∀ c ∈ l, c.changesSite = false) :
    p.Settles o alerts ((alerts.filter fun a => !a.isDisabled).foldl p.settled o)
      (l ++ (alerts.filter fun a => !a.isDisabled).flatMap p.callsFor) := by
  have hmap := hown.map_readAll hread
  have hordered : (alerts.map (·.id)).Pairwise (· < ·) := by
    have hids : alerts.map (·.id) = o.alerts.entries.map (·.1) := by
      have hfst := congrArg (List.map Prod.fst) hmap
      rw [List.map_map, List.map_map] at hfst
      exact hfst
    rw [hids, List.pairwise_map]
    exact o.alerts.ascending
  have hstored := hown.contains_of_mem_filter hread fun a => !a.isDisabled
  have hnodup : (alerts.map (·.id)).Nodup := hordered.imp fun hlt => String.ne_of_lt hlt
  have hdistinct : ((alerts.filter fun a => !a.isDisabled).map (·.id)).Nodup :=
    hnodup.sublist (List.filter_sublist.map _)
  -- What is found of an alert that is not disabled after all of them were settled.
  have hsettled : ∀ a ∈ alerts, a.isDisabled = false →
      ((alerts.filter fun a => !a.isDisabled).foldl p.settled o).alerts.find? a.id =
        if p.stores a then some (a.reconcile p.live).alert.payload else o.alerts.find? a.id := by
    intro a ha henabled
    apply find?_foldl_settled hdistinct
    rw [List.mem_filter, henabled]
    exact ⟨ha, rfl⟩
  have hnone {f : Call → Bool} (hf : ∀ c, f c = true → c.changesSite = true) : l.filter f = [] := by
    rw [List.filter_eq_nil_iff]
    intro c hc hfc
    have hchanges := hf c hfc
    rw [hquiet c hc] at hchanges
    nomatch hchanges
  constructor
  case listed =>
    intro id payload hpayload
    have hmem : (id, Alert.ofPayload payload) ∈
        alerts.map fun a => (a.id, (Except.ok a : Except Error Alert)) := by
      rw [hmap]
      exact List.mem_map.2 ⟨(id, payload), SortedMap.mem_entries_iff.2 hpayload, rfl⟩
    obtain ⟨a, ha, heq⟩ := List.mem_map.1 hmem
    obtain ⟨hid, hread⟩ := Prod.mk.inj heq
    exact ⟨a, ha, hid, hread.symm⟩
  case ordered => exact hordered
  case observed =>
    intro a ha henabled hfault
    rw [hsettled a ha henabled, stores, hfault]
    by_cases hchanged : (a.reconcile p.live).changed = true
    · rw [hchanged]
      exact ⟨_, rfl, Alert.ofPayload_payload _⟩
    · obtain ⟨payload, hpayload, hread⟩ := hown.find?_of_mem hread ha
      refine ⟨payload, ?_, ?_⟩
      · rw [eq_false_of_ne_true hchanged]
        exact hpayload
      · rw [Alert.reconcile_of_unchanged (eq_false_of_ne_true hchanged)]
        exact hread
  case kept =>
    intro a ha hkept
    cases hdisabled : a.isDisabled with
    | true =>
      -- The ids of the alerts that are settled are those of others.
      apply find?_foldl_settled_of_notMem
      intro hmem
      obtain ⟨b, hb, hid⟩ := List.mem_map.1 hmem
      rw [List.mem_filter] at hb
      obtain rfl := List.inj_on_of_nodup_map hnodup hb.1 ha hid
      rw [hdisabled] at hb
      nomatch hb.2
    | false =>
      rw [hsettled a ha hdisabled, if_neg]
      rw [stores, Bool.and_eq_true, Option.isNone_iff_eq_none]
      rintro ⟨hchanged, hfault⟩
      obtain h | h | h := hkept
      · rw [hdisabled] at h
        nomatch h
      · rw [hchanged] at h
        nomatch h
      · exact h hfault
  case same => exact contains_foldl_settled hstored
  case recipients => exact @shelf_foldl_settled p _ .recipient nofun _
  case alertConfigs => exact @shelf_foldl_settled p _ .alertConfig nofun _
  case unsilenced =>
    rw [List.filter_append, hnone fun c => Call.changesSite_of_isSilencing, List.nil_append,
      filter_flatMap_callsFor filter_isSilencing_callsFor, List.filter_filter]
    congr 1
    apply List.filter_congr
    intro a _
    rw [Alert.removeSilence_reconcile]
    -- An alert that is suppressed is not disabled.
    rw [Alert.isDisabled]
    cases a.state <;> simp
  case stored =>
    rw [List.filter_append, hnone fun c => Call.changesSite_of_writesStore, List.nil_append,
      filter_flatMap_callsFor filter_writesStore_callsFor, List.filter_filter]
    congr 1
    apply List.filter_congr
    intro a _
    exact Bool.and_comm _ _

/-- What an operation after another comes to: it goes on where that succeeded. -/
theorem run_operation_bind {α β : Type} (x : Operation α) (f : α → Operation β)
    (s : Objects × List Call) : (x >>= f).outcome.run p.answer s =
      match x.outcome.run p.answer s with
      | (.ok a, t) => (f a).outcome.run p.answer t
      | (.error e, t) => (.error e, t) := by
  show (x.outcome >>= ExceptT.bindCont f).run p.answer s = _
  rw [run_bind]
  cases x.outcome.run p.answer s with
  | mk r t => cases r <;> rfl

/-- Listing the alerts reads what is stored, or fails. -/
theorem run_alerts (p : Responder) (o : Objects) (l : List Call) :
    (Registry.alerts none).outcome.run p.answer (o, l) =
      (attempt (p.fault? (.list .alert)) (Shelf.alerts.readAll o), o, l ++ [.list .alert]) := by
  have hobjects : (Registry.objects Shelf.alerts.kind).outcome.run p.answer (o, l) =
      (attempt (p.fault? (.list .alert)) (.ok (o.list .alert)), o, l ++ [.list .alert]) := rfl
  rw [← Shelf.listing_alerts, Shelf.listing, run_operation_bind, hobjects]
  cases p.fault? (.list .alert) with
  | some e => rfl
  | none =>
    show (Operation.ofExcept (Shelf.alerts.readAll o) >>= fun all =>
      pure (all.filter fun _ => true) : Operation (List Alert)).outcome.run p.answer _ = _
    cases Shelf.alerts.readAll o with
    | error e => rfl
    | ok all =>
      show (Except.ok (all.filter fun _ => true), _) = _
      rw [List.filter_true]
      rfl

/-- What a tick comes to: it fails with a list that it does not obtain, or settles the alerts that
are not disabled. -/
theorem tick_eq (p : Responder) (o : Objects) : p.tick o =
    match p.fault? .liveAlerts with
    | some e => (.error e, o, [.liveAlerts])
    | none =>
      match attempt (p.fault? (.list .alert)) (Shelf.alerts.readAll o) with
      | .error e => (.error e, o, [.liveAlerts, .list .alert])
      | .ok alerts => (.ok .done, (((alerts.filter fun a => !a.isDisabled).forM fun a =>
          Synchronizer.settle (a.reconcile p.live)).run p.answer
            (o, [.liveAlerts, .list .alert])).2) := by
  have hlive : (Operation.ofProgram (Program.ask .liveAlerts) :
      Operation (List LiveAlert)).outcome.run p.answer (o, []) =
        (attempt (p.fault? .liveAlerts) (.ok p.live), o, [.liveAlerts]) := rfl
  unfold tick Synchronizer.syncStates
  rw [run_operation_bind, hlive]
  cases p.fault? .liveAlerts with
  | some e => rfl
  | none =>
    show (Registry.alerts none >>= fun alerts => _ : Operation Outcome).outcome.run p.answer _ = _
    rw [run_operation_bind, run_alerts]
    cases attempt (p.fault? (.list .alert)) (Shelf.alerts.readAll o) with
    | error e => rfl
    | ok alerts =>
      show (Operation.outcome (List.forM _ (fun a : Alert =>
        (ExceptT.lift (Synchronizer.settle (a.reconcile p.live)) : Operation Unit)) >>= fun _ =>
          _)).run p.answer _ = _
      rw [Operation.forM_lift, Operation.outcome_lift_bind, run_bind]
      rfl

/-- A tick that obtains both lists is done, and has settled every alert. -/
theorem settles_of_readAll {alerts : List Alert} (hown : o.OwnIds)
    (hlive : p.fault? .liveAlerts = none) (hlist : p.fault? (.list .alert) = none)
    (hread : Shelf.alerts.readAll o = .ok alerts) :
    (p.tick o).1 = .ok .done ∧ p.Settles o alerts (p.tick o).2.1 (p.tick o).2.2 := by
  have hquiet : ∀ c ∈ [Call.liveAlerts, .list .alert], c.changesSite = false := by decide
  have hsettles := settles_of_ownIds (p := p) hown hread hquiet
  have hstored := hown.contains_of_mem_filter hread fun a => !a.isDisabled
  rw [tick_eq, hlive, hlist, hread]
  show _ ∧ p.Settles o alerts (Program.run p.answer _ _).2.1 (Program.run p.answer _ _).2.2
  rw [run_forM_settle hstored]
  exact ⟨rfl, hsettles⟩

/-- Whatever is stored, reported and made to fail: a tick that does not obtain both lists fails,
writes nothing and leaves the silences alone; a tick that does is done, and has settled each alert
that is not disabled by itself. -/
theorem tick_independent (p : Responder) {o : Objects} (hown : o.OwnIds) :
    (p.fault? .liveAlerts ≠ none ∨ p.fault? (.list .alert) ≠ none ∨
        (∃ e, Shelf.alerts.readAll o = .error e) →
      (∃ e, (p.tick o).1 = .error e) ∧ (p.tick o).2.1 = o ∧
        ∀ c ∈ (p.tick o).2.2, c.changesSite = false) ∧
    ∀ alerts, p.fault? .liveAlerts = none → p.fault? (.list .alert) = none →
      Shelf.alerts.readAll o = .ok alerts →
      (p.tick o).1 = .ok .done ∧ p.Settles o alerts (p.tick o).2.1 (p.tick o).2.2 := by
  constructor
  · intro hfault
    have hquiet : ∀ c ∈ [Call.liveAlerts, .list .alert], c.changesSite = false := by decide
    rw [tick_eq]
    split
    · exact ⟨⟨_, rfl⟩, rfl, fun c hc => hquiet c (List.mem_cons.2 (.inl (List.mem_singleton.1 hc)))⟩
    · next hlive =>
      have herror : ∃ e, attempt (p.fault? (.list .alert)) (Shelf.alerts.readAll o) = .error e := by
        obtain h | h | ⟨e, h⟩ := hfault
        · exact absurd hlive h
        · obtain ⟨e, he⟩ := Option.ne_none_iff_exists'.1 h
          exact ⟨e, by rw [he]; rfl⟩
        · rw [h]
          cases p.fault? (.list .alert) with
          | some e' => exact ⟨e', rfl⟩
          | none => exact ⟨e, rfl⟩
      obtain ⟨e, he⟩ := herror
      rw [he]
      exact ⟨⟨e, rfl⟩, rfl, hquiet⟩
  · exact fun alerts hlive hlist hread => settles_of_readAll hown hlive hlist hread

/-- Nothing fires, and no silence can be removed. -/
def unsilenceable : Responder where
  live := []
  fault?
    | .removeSilence _ => some (.backend "down")
    | _ => none
  told c := ((World.start (.memory .empty) .unreachable).answer c).1

/-- A suppressed alert and its recipient. -/
def suppressedObjects : Objects := (Contents.sample (.sample "a1" "e1" "r1" .suppressed)).objects

/-- The state of a suppressed alert that fires no more is taken over, although its silence could not
be removed. -/
theorem tick_independent_unsilenceable : suppressedObjects.OwnIds ∧
    (unsilenceable.tick suppressedObjects).1 = .ok .done ∧
    (unsilenceable.tick suppressedObjects).2.2.filter Call.isSilencing =
      [.removeSilence (.sample "a1" "e1" "r1" .enabled)] ∧
    ∃ payload, (unsilenceable.tick suppressedObjects).2.1.alerts.find? "a1" = some payload ∧
      Alert.ofPayload payload = .ok (.sample "a1" "e1" "r1" .enabled) := by
  have hown : suppressedObjects.OwnIds := Contents.ownIds_objects _
  have hread : Shelf.alerts.readAll suppressedObjects =
      .ok [.sample "a1" "e1" "r1" .suppressed] := by
    unfold suppressedObjects
    rw [Shelf.readAll_objects]
    rfl
  obtain ⟨hdone, hsettles⟩ := (unsilenceable.tick_independent hown).2 _ rfl rfl hread
  have hobserved : ((Alert.sample "a1" "e1" "r1" .suppressed).reconcile unsilenceable.live).alert =
      .sample "a1" "e1" "r1" .enabled := by decide
  have hstored := hsettles.observed (.sample "a1" "e1" "r1" .suppressed)
    (List.mem_singleton_self _) rfl rfl
  rw [hobserved] at hstored
  exact ⟨hown, hdone, hsettles.unsilenced, hstored⟩

end Responder

end AlertSync
