import AlertSync.Backend.Alerting
import AlertSync.Proofs.Reconcile
import AlertSync.Proofs.Routing.Tree
import AlertSync.Proofs.Sample

/-!
# One identity for an alert everywhere

Four definitions say which labels belong to an alert: its rule puts labels on what fires, the
matchers of the routing tree choose by labels, the reconciliation looks for them on live alerts, and
a silence selects by them. They agree: labels that the rule of an alert gives are led to the leaf of
that alert, are observed for it and are selected by its silence, and for no other alert.

The rule of an alert carries its id and its environment (`labels_ofAlert`), and each of the other
three asks for exactly these two (`isAbout_iff`, `forall_mem_matchers_iff`, `walk_root`).
-/

namespace AlertSync

/-- The rule of an alert gives its id and its environment as labels. -/
theorem Rule.labels_ofAlert (a : Alert) :
    (Rule.ofAlert a).labels.find? "alert_id" = some a.id ∧
      (Rule.ofAlert a).labels.find? "environment" = some a.environment := by
  unfold Rule.ofAlert SortedMap.ofList
  simp

/-- Labels with everything that a rule gives have the id and the environment of its alert. -/
theorem Rule.find?_of_labels_subset {a : Alert} {labels : SortedMap String}
    (h : ∀ e ∈ (Rule.ofAlert a).labels.entries, labels.find? e.1 = some e.2) :
    labels.find? "alert_id" = some a.id ∧ labels.find? "environment" = some a.environment := by
  obtain ⟨hid, henvironment⟩ := Rule.labels_ofAlert a
  exact ⟨h _ (SortedMap.mem_entries_iff.2 hid), h _ (SortedMap.mem_entries_iff.2 henvironment)⟩

/-- The rules that are written are those of the alerts that are not disabled. -/
theorem RuleGroups.mem_ofAlerts {alerts : List Alert} {r : Rule} :
    (∃ g ∈ (RuleGroups.ofAlerts alerts).groups, r ∈ g.rules) ↔
      ∃ a ∈ alerts, a.isDisabled = false ∧ r = Rule.ofAlert a := by
  unfold RuleGroups.ofAlerts
  simp only [List.mem_singleton, exists_eq_left, List.mem_map, List.mem_filter, Bool.not_eq_true',
    and_assoc]
  constructor
  · rintro ⟨a, ha, hen, rfl⟩
    exact ⟨a, ha, hen, rfl⟩
  · rintro ⟨a, ha, hen, rfl⟩
    exact ⟨a, ha, hen, rfl⟩

/-- A silence selects labels if they give the alert's id and environment. -/
theorem AlertingBackend.forall_mem_matchers_iff (a : Alert) (labels : SortedMap String) :
    (∀ m ∈ AlertingBackend.matchers a, labels.find? m.name = some m.value) ↔
      labels.find? "alert_id" = some a.id ∧ labels.find? "environment" = some a.environment := by
  unfold AlertingBackend.matchers
  simp

/-- One live alert is observed for an alert if it is about it. -/
theorem Alert.observed?_singleton (a : Alert) (l : LiveAlert) :
    a.observed? [l] = some l ↔ l.isAbout a = true := by
  unfold Alert.observed?
  rw [List.find?_cons]
  cases l.isAbout a <;> simp

/-- Labels that identify an alert identify no other alert with another id. -/
theorem identified_iff {a b : Alert} {labels : SortedMap String} (hids : b.id = a.id → b = a)
    (hid : labels.find? "alert_id" = some a.id)
    (henvironment : labels.find? "environment" = some a.environment) :
    labels.find? "alert_id" = some b.id ∧ labels.find? "environment" = some b.environment ↔
      b = a := by
  constructor
  · rintro ⟨hb, -⟩
    exact hids (Option.some.inj (hb.symm.trans hid))
  · rintro rfl
    exact ⟨hid, henvironment⟩

namespace RoutingConfig

/-- What is in force at the leaf of an alert: its recipient is notified, and the waits that it does
not give are those of the root. -/
theorem decision_root {alerts : List Alert} {labels : SortedMap String} {a : Alert}
    (hids : ∀ b ∈ alerts, b.id = a.id → b = a) (ha : a ∈ alerts) (hen : a.isDisabled = false)
    (henvironment : labels.find? "environment" = some a.environment)
    (hid : labels.find? "alert_id" = some a.id) :
    (root (branches alerts)).decision labels =
      { receiver := some a.recipientId
        groupWait := some ((Duration.parse? a.advancedOptions.initialWait).getD (.ofSeconds 60))
        groupInterval := some (.ofSeconds (5 * 60))
        repeatInterval := some
          ((Duration.parse? a.advancedOptions.repeatInterval).getD (.ofSeconds (60 * 60))) } := by
  unfold Route.decision
  rw [walk_root hids ha hen henvironment hid]
  unfold root branch leaf
  simp only [List.foldl_cons, List.foldl_nil, Route.settings, Route.receiver, Route.groupWait,
    Route.groupInterval, Route.repeatInterval, RouteSettings.undecided, RouteSettings.mk.injEq]
  refine ⟨rfl, ?_, rfl, ?_⟩
  · cases Duration.parse? a.advancedOptions.initialWait <;> rfl
  · cases Duration.parse? a.advancedOptions.repeatInterval <;> rfl

/-- No node of the tree asks for the id of a disabled alert. -/
theorem find?_alertId_ne_of_disabled {alerts : List Alert} {a : Alert} {n : Route}
    (hids : ∀ b ∈ alerts, b.id = a.id → b = a) (hdis : a.isDisabled = true)
    (hn : n ∈ (root (branches alerts)).nodes) : n.matchers.find? "alert_id" ≠ some a.id := by
  intro h
  rcases mem_nodes_root.1 hn with rfl | hbranch | ⟨b, hb, hben, rfl⟩
  · simp [root, Route.matchers] at h
  · obtain ⟨b, -, -, rfl⟩ := mem_branches.1 hbranch
    simp [branch, Route.matchers, SortedMap.ofList] at h
  · have hid : b.id = a.id := by simpa [leaf, Route.matchers, SortedMap.ofList] using h
    rw [hids b hb hid, hdis] at hben
    simp at hben

end RoutingConfig

open RoutingConfig in
/-- Rules, routing, observation and silences agree on the identity of an alert. Whatever carries the
labels of the rule of an alert that is not disabled goes through the branch of its environment to
its leaf, notifies its recipient and keeps its waits or those of the root, is observed for it and
for no other alert of the list, and is selected by its silence and by that of no other alert of the
list. A disabled alert has no rule, and no node of the tree asks for its id. -/
theorem identity_agrees (settings : Option AlertConfig) (alerts : List Alert)
    (recipients : List Recipient) (hids : (alerts.map (·.id)).Nodup) :
    (∀ a ∈ alerts, a.isDisabled = false →
      (∃ g ∈ (RuleGroups.ofAlerts alerts).groups, Rule.ofAlert a ∈ g.rules) ∧
      ∀ labels : SortedMap String,
        (∀ e ∈ (Rule.ofAlert a).labels.entries, labels.find? e.1 = some e.2) →
        (∃ leaves, (build settings alerts recipients).route.walk labels =
          [(build settings alerts recipients).route, branch a.environment leaves, leaf a]) ∧
        (build settings alerts recipients).route.decision labels =
          { receiver := some a.recipientId
            groupWait := some ((Duration.parse? a.advancedOptions.initialWait).getD (.ofSeconds 60))
            groupInterval := some (.ofSeconds (5 * 60))
            repeatInterval := some
              ((Duration.parse? a.advancedOptions.repeatInterval).getD (.ofSeconds (60 * 60))) } ∧
        ∀ b ∈ alerts,
          (∀ l : LiveAlert, l.labels = labels → (b.observed? [l] = some l ↔ b = a)) ∧
          ((∀ m ∈ AlertingBackend.matchers b, labels.find? m.name = some m.value) ↔ b = a)) ∧
    ∀ a ∈ alerts, a.isDisabled = true →
      (∀ g ∈ (RuleGroups.ofAlerts alerts).groups, ∀ r ∈ g.rules,
        r.labels.find? "alert_id" ≠ some a.id) ∧
      ∀ n ∈ (build settings alerts recipients).route.nodes,
        n.matchers.find? "alert_id" ≠ some a.id := by
  have hinj : ∀ a ∈ alerts, ∀ b ∈ alerts, b.id = a.id → b = a := by
    intro a ha b hb heq
    exact List.inj_on_of_nodup_map hids hb ha heq
  rw [build_route]
  constructor
  · intro a ha hen
    refine ⟨RuleGroups.mem_ofAlerts.2 ⟨a, ha, hen, rfl⟩, ?_⟩
    intro labels hlabels
    obtain ⟨hid, henvironment⟩ := Rule.find?_of_labels_subset hlabels
    refine ⟨⟨_, walk_root (hinj a ha) ha hen henvironment hid⟩,
      decision_root (hinj a ha) ha hen henvironment hid, ?_⟩
    intro b hb
    have hiff := identified_iff (hinj a ha b hb) hid henvironment
    constructor
    · rintro l rfl
      rw [Alert.observed?_singleton, LiveAlert.isAbout_iff]
      exact hiff
    · rw [AlertingBackend.forall_mem_matchers_iff]
      exact hiff
  · intro a ha hdis
    constructor
    · intro g hg r hr h
      obtain ⟨b, hb, hben, rfl⟩ := RuleGroups.mem_ofAlerts.1 ⟨g, hg, hr⟩
      rw [(Rule.labels_ofAlert b).1] at h
      rw [hinj a ha b hb (Option.some.inj h), hdis] at hben
      simp at hben
    · intro n hn
      exact find?_alertId_ne_of_disabled (hinj a ha) hdis hn

/-- Two alerts of one environment, one of another, and a disabled one. -/
def sampleAlerts : List Alert :=
  [.sample "a1" "e1" "r1" .active, .sample "a2" "e1" "r2" .enabled,
    .sample "a3" "e2" "r1" .suppressed, .sample "a4" "e1" "r2" .disabled]

/-- The labels of the rule of the second alert, and one more. -/
def sampleLabels : SortedMap String :=
  (Rule.ofAlert (.sample "a2" "e1" "r2" .enabled)).labels.insert "instance" "h1:9100"

/-- What carries the labels of the second of four alerts notifies its recipient, is observed for it
and not for the first, and the fourth, which is disabled, has no node in the tree. -/
theorem identity_agrees_sampleAlerts :
    (sampleAlerts.map (·.id)).Nodup ∧
      ((RoutingConfig.build none sampleAlerts []).route.decision sampleLabels).receiver =
        some "r2" ∧
      ((Alert.sample "a2" "e1" "r2" .enabled).observed? [.sample sampleLabels "active"] =
        some (.sample sampleLabels "active")) ∧
      (Alert.sample "a1" "e1" "r1" .active).observed? [.sample sampleLabels "active"] ≠
        some (.sample sampleLabels "active") ∧
      ∀ n ∈ (RoutingConfig.build none sampleAlerts []).route.nodes,
        n.matchers.find? "alert_id" ≠ some "a4" := by
  have hids : (sampleAlerts.map (·.id)).Nodup := by decide
  obtain ⟨henabled, hdisabled⟩ := identity_agrees none sampleAlerts [] hids
  have hlabels : ∀ e ∈ (Rule.ofAlert (.sample "a2" "e1" "r2" .enabled)).labels.entries,
      sampleLabels.find? e.1 = some e.2 := by decide
  obtain ⟨-, hdecision, hother⟩ :=
    (henabled (.sample "a2" "e1" "r2" .enabled) (by decide) rfl).2 sampleLabels hlabels
  refine ⟨hids, ?_, ?_, ?_, ?_⟩
  · rw [hdecision]
    rfl
  · exact ((hother (.sample "a2" "e1" "r2" .enabled) (by decide)).1 _ rfl).2 rfl
  · intro h
    exact absurd (((hother (.sample "a1" "e1" "r1" .active) (by decide)).1 _ rfl).1 h) (by decide)
  · exact (hdisabled (.sample "a4" "e1" "r2" .disabled) (by decide) rfl).2

end AlertSync
