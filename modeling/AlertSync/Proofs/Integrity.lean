import AlertSync.Proofs.Routing.Tree
import AlertSync.Proofs.Success

/-!
# Every alert has a recipient

Alerts name recipients, and the routing tree names receivers, which are the recipients. In whatever
order requests and ticks come and however they fail, the recipient of every alert stays stored
(`Contents.Sound`), so the tree never leads to a receiver that there is not
(`recipients_complete`).

An alert is only ever written with a recipient that is stored, or with the one that it had
(`Sound.put_alert`); and a recipient goes only when the listing shows no alert that names it.
-/

namespace AlertSync

open Program (Always Runs)

/-- Whether an id is one of 32 hexadecimal digits. -/
def IsHexId (id : String) : Prop :=
  id.toList.length = 32 ∧ ∀ c ∈ id.toList, c.isDigit ∨ ('a' ≤ c ∧ c ≤ 'f')

/-- The promise that new ids have 32 hexadecimal digits. -/
def Promise.hexIds : Promise
  | .freshId, _, id => IsHexId id
  | _, _, _ => True

namespace Contents

/-- Whether every alert has a recipient, and every recipient an id that was given out. -/
structure Sound (k : Contents) : Prop where
  recipient_of_alert : ∀ {id a}, k.alerts.find? id = some a →
    ∃ r, k.recipients.find? a.recipientId = some r
  isHexId_of_recipient : ∀ {id r}, k.recipients.find? id = some r → IsHexId id

variable {k : Contents}

/-- An alert may be put into sound contents that has a recipient in them. -/
theorem Sound.put_alert (h : k.Sound) {a : Alert}
    (hrecipient : ∃ r, k.recipients.find? a.recipientId = some r) :
    (k.put (.alert a)).Sound where
  recipient_of_alert := by
    intro id b hb
    change (k.alerts.insert a.id a).find? id = some b at hb
    rw [SortedMap.find?_insert] at hb
    split at hb
    · obtain rfl := Option.some.inj hb
      exact hrecipient
    · exact h.recipient_of_alert hb
  isHexId_of_recipient := h.isHexId_of_recipient

/-- A recipient may be put into sound contents that has an id that was given out. -/
theorem Sound.put_recipient (h : k.Sound) {r : Recipient} (hid : IsHexId r.id) :
    (k.put (.recipient r)).Sound where
  recipient_of_alert := by
    intro id a ha
    obtain ⟨r', hr'⟩ := h.recipient_of_alert ha
    show ∃ r', (k.recipients.insert r.id r).find? a.recipientId = some r'
    rw [SortedMap.find?_insert]
    split
    · exact ⟨r, rfl⟩
    · exact ⟨r', hr'⟩
  isHexId_of_recipient := by
    intro id r' hr'
    change (k.recipients.insert r.id r).find? id = some r' at hr'
    rw [SortedMap.find?_insert] at hr'
    split at hr'
    · next heq =>
      rw [heq]
      exact hid
    · exact h.isHexId_of_recipient hr'

/-- An alert may go. -/
theorem Sound.eraseAlert (h : k.Sound) (id : String) : (k.eraseAlert id).Sound where
  recipient_of_alert := by
    intro x a ha
    change (k.alerts.erase id).find? x = some a at ha
    rw [SortedMap.find?_erase] at ha
    split at ha
    · exact absurd ha.symm (Option.some_ne_none a)
    · exact h.recipient_of_alert ha
  isHexId_of_recipient := h.isHexId_of_recipient

/-- A recipient may go that no alert names. -/
theorem Sound.eraseRecipient (h : k.Sound) {id : String}
    (hunused : ∀ a ∈ k.alertList, a.recipientId ≠ id) : (k.eraseRecipient id).Sound where
  recipient_of_alert := by
    intro x a ha
    obtain ⟨r, hr⟩ := h.recipient_of_alert ha
    -- The recipient of a listed alert is none that may go.
    have hmem : a ∈ k.alertList := by
      rw [mem_alertList, k.id_of_alert ha]
      exact ha
    refine ⟨r, ?_⟩
    show (k.recipients.erase id).find? a.recipientId = some r
    rw [SortedMap.find?_erase, if_neg (hunused a hmem)]
    exact hr
  isHexId_of_recipient := by
    intro x r hr
    change (k.recipients.erase id).find? x = some r at hr
    rw [SortedMap.find?_erase] at hr
    split at hr
    · exact absurd hr.symm (Option.some_ne_none r)
    · exact h.isHexId_of_recipient hr

/-- Every change that a request decides on leaves sound contents sound. -/
theorem Sound.edit (h : k.Sound) {w w' : Finset (String × String)} {q : Request} {d : Draft}
    (hyields : q.Yields .hexIds k w d w') : (d.edit.apply k).Sound := by
  cases hyields with
  | createAlert _ hrecipient _ => exact h.put_alert ⟨_, hrecipient⟩
  | updateAlert _ _ hrecipient => exact h.put_alert ⟨_, hrecipient⟩
  | enable hfound _ | disable hfound _ | silence hfound _ | unsilence hfound _ =>
    obtain ⟨r, hr⟩ := h.recipient_of_alert hfound
    exact h.put_alert ⟨r, hr⟩
  | deleteAlert _ _ => exact h.eraseAlert _
  | createRecipient _ hid => exact h.put_recipient hid
  | updateRecipient hfound _ => exact h.put_recipient (h.isHexId_of_recipient hfound)
  | deleteRecipient _ hunused => exact h.eraseRecipient hunused
  | saveAlertConfig _ =>
    show (Edit.apply k (if _ then _ else _)).Sound
    split
    · exact ⟨h.recipient_of_alert, h.isHexId_of_recipient⟩
    · exact ⟨h.recipient_of_alert, h.isHexId_of_recipient⟩

/-- An alert that is settled keeps its recipient. -/
theorem Sound.settling (h : k.Sound) {live : List LiveAlert} {k' : Contents}
    {w w' : Finset (String × String)}
    (hstep : Synchronizer.Settling .hexIds live (k, w) (k', w')) : k'.Sound := by
  obtain ⟨a, hfound, -, hsettled⟩ := hstep
  cases hsettled with
  | unchanged _ | unwritten _ _ => exact h
  | written _ _ _ =>
    obtain ⟨r, hr⟩ := h.recipient_of_alert hfound
    exact h.put_alert ⟨r, hr⟩

end Contents

/-- The contents are sound at every site that tasks reach. -/
theorem sound_of_reached {s : Site} (h : Reached .hexIds s) :
    ∃ k w, s = Contents.site k w ∧ k.Sound := by
  refine @reached_induction _ (fun k _ => k.Sound) ⟨nofun, nofun⟩ ?_ ?_ s h
  · intro k w q d w' hsound hyields
    exact ⟨hsound, fun _ => hsound.edit hyields⟩
  · intro live k w k' w' hsound hstep
    exact hsound.settling hstep

/-! ## The routing tree -/

namespace RoutingConfig

variable {k : Contents}

/-- The names of the receivers that are generated. -/
theorem receivers_build (settings : Option AlertConfig) (alerts : List Alert)
    (recipients : List Recipient) :
    (build settings alerts recipients).receivers.map (·.name) =
      Receiver.defaultName :: recipients.map (·.id) := by
  show Receiver.defaultName :: (recipients.map Receiver.ofRecipient).map (·.name) = _
  rw [List.map_map]
  congr 1
  apply List.map_congr_left
  intro r _
  show (Receiver.ofRecipient r).name = r.id
  unfold Receiver.ofRecipient
  cases r.recipientType <;> rfl

/-- The receivers of sound contents have different names. -/
theorem nodup_receivers (h : k.Sound) :
    ((build k.settings k.alertList k.recipientList).receivers.map (·.name)).Nodup := by
  rw [receivers_build, List.nodup_cons]
  refine ⟨?_, k.nodup_recipientList⟩
  -- The name of the default receiver is too short to be an id.
  intro hmem
  obtain ⟨r, hr, hname⟩ := List.mem_map.1 hmem
  have hid := (h.isHexId_of_recipient (Contents.mem_recipientList.1 hr)).1
  rw [hname] at hid
  exact absurd hid (by decide)

/-- The root and every leaf of the tree for sound contents lead to a receiver that there is. -/
theorem receiver_mem_of_mem_nodes (h : k.Sound) {n : Route}
    (hn : n ∈ (build k.settings k.alertList k.recipientList).route.nodes)
    (hleaf : n = (build k.settings k.alertList k.recipientList).route ∨ n.routes = []) :
    ∃ name ∈ (build k.settings k.alertList k.recipientList).receivers.map (·.name),
      n.receiver = some name := by
  rw [receivers_build]
  rw [build_route] at hn hleaf
  have hroot : ∃ name ∈ Receiver.defaultName :: k.recipientList.map (·.id),
      (root (branches k.alertList)).receiver = some name :=
    ⟨_, List.mem_cons_self, rfl⟩
  obtain rfl | hbranch | ⟨a, ha, -, rfl⟩ := mem_nodes_root.1 hn
  · exact hroot
  · obtain rfl | hempty := hleaf
    · exact hroot
    · -- A branch is no leaf: it has the leaf of the alert that it is there for.
      obtain ⟨a, ha, henabled, rfl⟩ := mem_branches.1 hbranch
      have hmem : leaf a ∈ leavesIn k.alertList a.environment :=
        mem_leavesIn.2 ⟨a, ha, henabled, rfl, rfl⟩
      have hnone : leavesIn k.alertList a.environment = [] := hempty
      rw [hnone] at hmem
      nomatch hmem
  · obtain ⟨r, hr⟩ := h.recipient_of_alert (Contents.mem_alertList.1 ha)
    have hid := k.id_of_recipient hr
    refine ⟨a.recipientId, List.mem_cons_of_mem _ (List.mem_map.2 ⟨r, ?_, hid⟩), rfl⟩
    rw [Contents.mem_recipientList, hid]
    exact hr

end RoutingConfig

namespace Synchronizer

variable {P : Promise} {k : Contents} {w : Finset (String × String)}

/-- What the routing tree is generated from is all that is stored. -/
theorem always_buildRoutes {post : Except Error RoutingConfig → Site → Prop}
    (hfail : ∀ e, post (.error e) (k.site w))
    (hok : post (.ok (.build k.settings k.alertList k.recipientList)) (k.site w)) :
    Always (Site.answering P) post buildRoutes.outcome (k.site w) := by
  unfold buildRoutes
  rw [Operation.always_bind]
  apply Registry.always_alertConfig
  · exact hfail
  · show Always _ _ (Registry.alerts none >>= fun _ => _ : Operation RoutingConfig).outcome _
    rw [Operation.always_bind]
    apply Registry.always_alerts
    · exact hfail
    · show Always _ _ (Registry.recipients none >>= fun _ => _ : Operation RoutingConfig).outcome _
      rw [Operation.always_bind]
      apply Registry.always_recipients
      · exact hfail
      · exact hok

end Synchronizer

/-- The promise of ids lets everything succeed. -/
theorem Promise.permissive_hexIds : hexIds.Permissive where
  list _ _ _ := trivial
  get _ _ _ _ := trivial
  create _ _ _ _ _ := trivial
  update _ _ _ _ _ := trivial
  delete _ _ _ _ := trivial
  notify _ _ _ := trivial
  count _ _ _ := trivial
  addSilence _ _ := trivial
  removeSilence _ _ := trivial

/-- Wherever tasks lead, every stored alert names a recipient that is stored under that id, and the
configuration that can be generated has receivers of different names, to which the root of its tree
and every leaf lead. -/
theorem recipients_complete {s : Site} (h : Reached .hexIds s) :
    (∀ id payload, s.objects.alerts.find? id = some payload →
      ∃ a r, Alert.ofPayload payload = .ok a ∧
        s.objects.recipients.find? a.recipientId = some (Recipient.payload r) ∧
        r.id = a.recipientId) ∧
    (∃ c, Synchronizer.buildRoutes.outcome.Runs (Site.answering .hexIds) s (.ok c) s) ∧
    ∀ c t, Synchronizer.buildRoutes.outcome.Runs (Site.answering .hexIds) s (.ok c) t →
      (c.receivers.map (·.name)).Nodup ∧
      ∀ n ∈ c.route.nodes, n = c.route ∨ n.routes = [] →
        ∃ name ∈ c.receivers.map (·.name), n.receiver = some name := by
  obtain ⟨k, w, rfl, hsound⟩ := sound_of_reached h
  refine ⟨?_, ⟨_, (Promise.permissive_hexIds.readable k w).runs_buildRoutes⟩, ?_⟩
  · intro id payload hpayload
    change (k.alerts.map Alert.payload).find? id = some payload at hpayload
    rw [SortedMap.find?_map, Option.map_eq_some_iff] at hpayload
    obtain ⟨a, ha, rfl⟩ := hpayload
    obtain ⟨r, hr⟩ := hsound.recipient_of_alert ha
    refine ⟨a, r, a.ofPayload_payload, ?_, k.id_of_recipient hr⟩
    show (k.recipients.map Recipient.payload).find? a.recipientId = _
    rw [SortedMap.find?_map, hr]
    rfl
  · have hbuild : Always (Site.answering .hexIds) (fun r _ => ∀ c, r = .ok c →
        c = RoutingConfig.build k.settings k.alertList k.recipientList)
        Synchronizer.buildRoutes.outcome (k.site w) := by
      apply Synchronizer.always_buildRoutes
      · exact fun _ _ h => nomatch h
      · exact fun _ h => (Except.ok.inj h).symm
    intro c t hrun
    obtain rfl := Program.always_iff.1 hbuild _ _ hrun c rfl
    exact ⟨RoutingConfig.nodup_receivers hsound,
      fun n hn hleaf => RoutingConfig.receiver_mem_of_mem_nodes hsound hn hleaf⟩

/-- An alert that was created for a recipient names one that is stored. -/
theorem recipients_complete_created :
    Reached .hexIds ((Contents.sample (.sample "0123456789abcdef0123456789abcdef" "e1"
      "fedcba9876543210fedcba9876543210" .enabled)).site ∅) ∧
    ∃ r, (Contents.sample (.sample "0123456789abcdef0123456789abcdef" "e1"
      "fedcba9876543210fedcba9876543210" .enabled)).objects.recipients.find?
        "fedcba9876543210fedcba9876543210" = some (Recipient.payload r) ∧
      r.id = "fedcba9876543210fedcba9876543210" := by
  have hreached : Reached .hexIds ((Contents.sample (.sample "0123456789abcdef0123456789abcdef"
      "e1" "fedcba9876543210fedcba9876543210" .enabled)).site ∅) := by
    refine reached_sample Promise.permissive_hexIds (fun _ => ?_) ?_ (by decide)
    · show IsHexId _
      unfold IsHexId
      simp
    · show IsHexId _
      unfold IsHexId
      simp
  refine ⟨hreached, ?_⟩
  obtain ⟨a, r, ha, hr, hid⟩ := (recipients_complete hreached).1
    "0123456789abcdef0123456789abcdef" _ rfl
  rw [Alert.ofPayload_payload] at ha
  obtain rfl := Except.ok.inj ha
  exact ⟨r, hr, hid⟩

end AlertSync
