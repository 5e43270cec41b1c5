import AlertSync.Proofs.Routing.Tree

/-!
# The routing tree loses and duplicates nothing

The tree groups the alerts that are not disabled by their environments: each environment with such
an alert has one branch, and a branch has one leaf for each such alert of its environment, in the
order of the alerts (`build_groups`). What a branch, a leaf and a receiver must be is said by the
parts of which they consist (`IsBranchOf`, `IsLeafOf`, `Receiver.IsFor`). All branches together then
have the leaves of all alerts that are not disabled, each as often as the alert is listed
(`perm_flatMap_filter`).
-/

namespace AlertSync

/-- Whether a receiver notifies a recipient, in the one way in which the recipient is reached, and
nobody else. -/
def Receiver.IsFor (r : Receiver) (recipient : Recipient) : Prop :=
  r.name = recipient.id ∧
    match recipient.recipientType with
    | .email => (∃ e, r.emails = [e] ∧ e.address = recipient.email.address) ∧ r.webhooks = []
    | .webhook => r.emails = [] ∧ ∃ w, r.webhooks = [w] ∧ w.url = recipient.webhook.url

/-- The receiver that is made for a recipient notifies it. -/
theorem Receiver.isFor_ofRecipient (recipient : Recipient) :
    (ofRecipient recipient).IsFor recipient := by
  unfold IsFor ofRecipient
  cases recipient.recipientType with
  | email => exact ⟨rfl, ⟨_, rfl, rfl⟩, rfl⟩
  | webhook => exact ⟨rfl, rfl, _, rfl, rfl⟩

/-- The parts of a list, one for each of some keys, are together what has one of the keys. -/
theorem perm_flatMap_filter {α : Type} (f : α → String) (l : List α) {keys : List String}
    (hnodup : keys.Nodup) :
    (keys.flatMap fun k => l.filter fun a => f a == k).Perm (l.filter fun a => f a ∈ keys) := by
  induction keys with
  | nil => simp
  | cons k keys ih =>
    obtain ⟨hk, hnodup⟩ := List.nodup_cons.1 hnodup
    have hfirst : (l.filter fun a => f a ∈ k :: keys).filter (fun a => f a == k) =
        l.filter fun a => f a == k := by
      rw [List.filter_filter]
      exact List.filter_congr fun a _ => by simp +contextual
    -- A key comes once, so what has the first key has none of the others.
    have hothers : (l.filter fun a => f a ∈ k :: keys).filter (fun a => !(f a == k)) =
        l.filter fun a => f a ∈ keys := by
      rw [List.filter_filter]
      refine List.filter_congr fun a _ => ?_
      by_cases hsame : f a = k
      · simp [hsame, hk]
      · simp [hsame]
    calc (k :: keys).flatMap (fun k => l.filter fun a => f a == k)
      _ = (l.filter fun a => f a == k) ++ keys.flatMap fun k => l.filter fun a => f a == k :=
        List.flatMap_cons
      List.Perm _ ((l.filter fun a => f a == k) ++ l.filter fun a => f a ∈ keys) :=
        (ih hnodup).append_left _
      List.Perm _ (l.filter fun a => f a ∈ k :: keys) := by
        rw [← hothers, ← hfirst]
        exact List.filter_append_perm _ _

namespace RoutingConfig

/-- Whether a route is the leaf of an alert: it takes what has the id of the alert to its
recipient, with the waits that the alert gives, and no further. -/
structure IsLeafOf (a : Alert) (r : Route) : Prop where
  matchers : r.matchers.entries = [("alert_id", a.id)]
  receiver : r.receiver = some a.recipientId
  groupWait : r.groupWait = Duration.parse? a.advancedOptions.initialWait
  groupInterval : r.groupInterval = none
  repeatInterval : r.repeatInterval = Duration.parse? a.advancedOptions.repeatInterval
  routes : r.routes = []

/-- Whether a route is the branch of an environment: it takes what has the environment to the
leaves of the alerts there that are not disabled, in the order of the alerts, and there are some. -/
structure IsBranchOf (alerts : List Alert) (environment : String) (r : Route) : Prop where
  matchers : r.matchers.entries = [("environment", environment)]
  leaves : List.Forall₂ IsLeafOf
    (alerts.filter fun a => !a.isDisabled && a.environment == environment) r.routes
  nonempty : r.routes ≠ []

/-- The leaf that is made for an alert is its leaf. -/
theorem isLeafOf_leaf (a : Alert) : IsLeafOf a (leaf a) := ⟨rfl, rfl, rfl, rfl, rfl, rfl⟩

/-- The environments for which there are branches. -/
def environments (alerts : List Alert) : List String :=
  (leavesByEnvironment (alerts.filter fun a => !a.isDisabled)).keys

/-- They are those of the alerts that are not disabled. -/
theorem mem_environments {alerts : List Alert} {environment : String} :
    environment ∈ environments alerts ↔
      ∃ a ∈ alerts, a.isDisabled = false ∧ a.environment = environment := by
  have hsome : environment ∈ environments alerts ↔
      ∃ a ∈ alerts.filter (fun a => !a.isDisabled), a.environment = environment := by
    unfold environments SortedMap.keys
    rw [List.mem_map]
    constructor
    · rintro ⟨⟨_, leaves⟩, hentry, rfl⟩
      rw [SortedMap.mem_entries_iff, find?_leavesByEnvironment] at hentry
      split at hentry
      · next hex => exact hex
      · nomatch hentry
    · intro hex
      have hfind := (find?_leavesByEnvironment _ environment).trans (if_pos hex)
      exact ⟨(environment, _), SortedMap.mem_entries_iff.2 hfind, rfl⟩
  rw [hsome]
  simp only [List.mem_filter, Bool.not_eq_true', and_assoc]

/-- The branches are those of the environments, each with the leaves there. -/
theorem branches_eq_map (alerts : List Alert) :
    branches alerts = (environments alerts).map fun e => branch e (leavesIn alerts e) := by
  unfold branches environments SortedMap.keys
  rw [List.map_map]
  refine List.map_congr_left fun ⟨environment, leaves⟩ hentry => ?_
  rw [SortedMap.mem_entries_iff, find?_leavesByEnvironment] at hentry
  split at hentry
  · obtain rfl := Option.some.inj hentry
    rfl
  · nomatch hentry

/-- The branch of an environment is its branch. -/
theorem isBranchOf_branch {alerts : List Alert} {environment : String}
    (h : environment ∈ environments alerts) :
    IsBranchOf alerts environment (branch environment (leavesIn alerts environment)) := by
  refine ⟨rfl, ?_, ?_⟩
  · have hleaves : leavesIn alerts environment =
        (alerts.filter fun a => !a.isDisabled && a.environment == environment).map leaf := by
      unfold leavesIn
      rw [List.filter_filter]
      exact congrArg _ (List.filter_congr fun a _ => Bool.and_comm _ _)
    show List.Forall₂ IsLeafOf _ (leavesIn alerts environment)
    rw [hleaves, List.forall₂_map_right_iff, List.forall₂_same]
    exact fun a _ => isLeafOf_leaf a
  · obtain ⟨a, ha, hen, henvironment⟩ := mem_environments.1 h
    exact List.ne_nil_of_mem (mem_leavesIn.2 ⟨a, ha, hen, henvironment, rfl⟩)

/-- The leaves of all branches are those of the alerts that are not disabled. -/
theorem perm_leaves (alerts : List Alert) :
    ((branches alerts).flatMap Route.routes).Perm
      ((alerts.filter fun a => !a.isDisabled).map leaf) := by
  have hall : (alerts.filter fun a => !a.isDisabled).filter
      (fun a => a.environment ∈ environments alerts) = alerts.filter fun a => !a.isDisabled := by
    refine List.filter_eq_self.2 fun a ha => decide_eq_true ?_
    rw [List.mem_filter, Bool.not_eq_true'] at ha
    exact mem_environments.2 ⟨a, ha.1, ha.2, rfl⟩
  have hnodup : (environments alerts).Nodup := SortedMap.nodup_keys _
  have hgroups :=
    perm_flatMap_filter Alert.environment (alerts.filter fun a => !a.isDisabled) hnodup
  rw [hall] at hgroups
  rw [branches_eq_map, List.flatMap_map]
  refine List.Perm.trans (.of_eq ?_) (hgroups.map leaf)
  rw [List.map_flatMap]
  rfl

/-- The routing tree has one branch for each environment of the alerts that are not disabled, in
ascending order, and in each branch the leaves of these alerts, in their order; there is a receiver
for whatever is left over, and one for each recipient. -/
theorem build_groups (settings : Option AlertConfig) (alerts : List Alert)
    (recipients : List Recipient) :
    (∃ environments : List String, environments.Pairwise (· < ·) ∧
      (∀ e, e ∈ environments ↔ ∃ a ∈ alerts, a.isDisabled = false ∧ a.environment = e) ∧
      List.Forall₂ (IsBranchOf alerts) environments
        (build settings alerts recipients).route.routes) ∧
    ((build settings alerts recipients).route.routes.flatMap Route.routes).Perm
      ((alerts.filter fun a => !a.isDisabled).map leaf) ∧
    ∃ receivers, (build settings alerts recipients).receivers =
        ⟨Receiver.defaultName, [], []⟩ :: receivers ∧
      List.Forall₂ Receiver.IsFor receivers recipients := by
  refine ⟨⟨environments alerts, SortedMap.ascending_keys _, fun _ => mem_environments, ?_⟩,
    perm_leaves alerts, _, rfl, ?_⟩
  · show List.Forall₂ (IsBranchOf alerts) (environments alerts) (branches alerts)
    rw [branches_eq_map, List.forall₂_map_right_iff, List.forall₂_same]
    exact fun _ => isBranchOf_branch
  · rw [List.forall₂_map_left_iff, List.forall₂_same]
    exact fun r _ => Receiver.isFor_ofRecipient r

end RoutingConfig

end AlertSync
