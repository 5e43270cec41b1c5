import AlertSync.Proofs.SortedMap
import AlertSync.Route.Config

/-!
# The routing tree and the way of labels through it

Labels enter the tree at its root. A route that they reach passes them on to its first child whose
matchers apply to them, and what a route leaves open is what the route before it decided: `walk` is
the way that labels take, and `decision` is what is in force where it ends.

The tree that `RoutingConfig.build` makes has a branch for each environment and in it the leaves of
that environment. `find?_leavesByEnvironment` says which leaves these are, and `walk_root` says that
labels which carry an environment and the id of an alert in it end in the leaf of that alert.
-/

namespace AlertSync

/-- What is in force for labels: who is notified, and how notifications are timed. -/
structure RouteSettings where
  /-- The receiver that is notified. -/
  receiver : Option String
  /-- How long the first notification of a group waits. -/
  groupWait : Option Duration
  /-- How long the notifications for a group that grew are apart. -/
  groupInterval : Option Duration
  /-- How long equal notifications are apart. -/
  repeatInterval : Option Duration
  deriving DecidableEq

/-- The settings of a place above which nothing is decided. -/
def RouteSettings.undecided : RouteSettings := ⟨none, none, none, none⟩

namespace Route

/-- Whether every matcher of a route finds the value that it asks for. -/
def applies (labels : SortedMap String) (r : Route) : Bool :=
  r.matchers.entries.all fun e => labels.find? e.1 == some e.2

/-- The routes that labels pass on their way from a route, the last of which decides on them. -/
def walk (labels : SortedMap String) : Route → List Route
  | r@(mk _ _ _ _ _ routes) => r :: walkFirst routes
where
  walkFirst : List Route → List Route
    | [] => []
    | r :: rs => if r.applies labels then walk labels r else walkFirst rs

/-- What a route sets, and for what it leaves open what was set before. -/
def settings (above : RouteSettings) (r : Route) : RouteSettings where
  receiver := r.receiver <|> above.receiver
  groupWait := r.groupWait <|> above.groupWait
  groupInterval := r.groupInterval <|> above.groupInterval
  repeatInterval := r.repeatInterval <|> above.repeatInterval

/-- What is in force where the way of labels ends. -/
def decision (labels : SortedMap String) (r : Route) : RouteSettings :=
  (r.walk labels).foldl settings .undecided

/-- A route and everything below it. -/
def nodes : Route → List Route
  | r@(mk _ _ _ _ _ routes) => r :: nodesOf routes
where
  nodesOf : List Route → List Route
    | [] => []
    | r :: rs => nodes r ++ nodesOf rs

/-- Labels go on from a route to the first of its children that applies to them. -/
theorem walkFirst_eq (labels : SortedMap String) (routes : List Route) :
    walk.walkFirst labels routes =
      ((routes.find? (applies labels)).map (walk labels)).getD [] := by
  induction routes with
  | nil => rfl
  | cons r rs ih =>
    rw [walk.walkFirst, List.find?_cons]
    cases h : r.applies labels with
    | true => rfl
    | false => exact ih

/-- What is below a list of routes is what is below each of them. -/
theorem mem_nodesOf {n : Route} {routes : List Route} :
    n ∈ nodes.nodesOf routes ↔ ∃ r ∈ routes, n ∈ r.nodes := by
  induction routes with
  | nil => simp [nodes.nodesOf]
  | cons r rs ih =>
    rw [nodes.nodesOf, List.mem_append, ih]
    simp

/-- A node is the route itself or a node of one of its children. -/
theorem mem_nodes {n r : Route} : n ∈ r.nodes ↔ n = r ∨ ∃ c ∈ r.routes, n ∈ c.nodes := by
  obtain ⟨_, _, _, _, _, routes⟩ := r
  rw [nodes, List.mem_cons, mem_nodesOf]
  exact Iff.rfl

end Route

namespace RoutingConfig

open Route

/-- A leaf applies to labels that carry the id of its alert. -/
theorem applies_leaf (labels : SortedMap String) (a : Alert) :
    (leaf a).applies labels = true ↔ labels.find? "alert_id" = some a.id := by
  show (labels.find? "alert_id" == some a.id && true) = true ↔ _
  rw [Bool.and_true, beq_iff_eq]

/-- A branch applies to labels that carry its environment. -/
theorem applies_branch (labels : SortedMap String) (environment : String) (leaves : List Route) :
    (branch environment leaves).applies labels = true ↔
      labels.find? "environment" = some environment := by
  show (labels.find? "environment" == some environment && true) = true ↔ _
  rw [Bool.and_true, beq_iff_eq]

/-- What grouping adds to the leaves of an environment: the leaves of the alerts in it, if there
are any, behind those that were there. -/
theorem find?_foldl_leaves (alerts : List Alert) (m : SortedMap (List Route))
    (environment : String) :
    (alerts.foldl (fun m a => m.insert a.environment ((m.find? a.environment).getD [] ++ [leaf a]))
        m).find? environment =
      if ∃ a ∈ alerts, a.environment = environment then
        some ((m.find? environment).getD [] ++
          (alerts.filter fun a => a.environment == environment).map leaf)
      else m.find? environment := by
  induction alerts generalizing m with
  | nil => simp
  | cons a alerts ih =>
    rw [List.foldl_cons, ih, SortedMap.find?_insert]
    by_cases ha : environment = a.environment
    · -- The leaf of this alert is behind what was there, and before what is still to come.
      subst ha
      by_cases hrest : ∃ b ∈ alerts, b.environment = a.environment
      · simp [hrest]
      · have hnone : alerts.filter (fun b => b.environment == a.environment) = [] := by
          rw [List.filter_eq_nil_iff]
          intro b hb heq
          exact hrest ⟨b, hb, by simpa using heq⟩
        simp [hrest, hnone]
    · simp [ha, Ne.symm ha]

/-- An environment has a branch if an alert is in it, and in that branch the leaves of its alerts
in their order. -/
theorem find?_leavesByEnvironment (alerts : List Alert) (environment : String) :
    (leavesByEnvironment alerts).find? environment =
      if ∃ a ∈ alerts, a.environment = environment then
        some ((alerts.filter fun a => a.environment == environment).map leaf)
      else none := by
  unfold leavesByEnvironment
  rw [find?_foldl_leaves]
  simp

/-- The branches that `build` puts below the root. -/
def branches (alerts : List Alert) : List Route :=
  (leavesByEnvironment (alerts.filter fun a => !a.isDisabled)).entries.map
    fun (environment, leaves) => branch environment leaves

/-- The leaves of an environment: those of the alerts in it that are not disabled. -/
def leavesIn (alerts : List Alert) (environment : String) : List Route :=
  ((alerts.filter fun a => !a.isDisabled).filter fun a => a.environment == environment).map leaf

/-- The tree that `build` makes. -/
theorem build_route (settings : Option AlertConfig) (alerts : List Alert)
    (recipients : List Recipient) :
    (build settings alerts recipients).route = root (branches alerts) := rfl

/-- In an environment are the leaves of the alerts of the environment that are not disabled. -/
theorem mem_leavesIn {alerts : List Alert} {environment : String} {r : Route} :
    r ∈ leavesIn alerts environment ↔
      ∃ a ∈ alerts, a.isDisabled = false ∧ a.environment = environment ∧ r = leaf a := by
  unfold leavesIn
  rw [List.mem_map]
  constructor
  · rintro ⟨a, ha, rfl⟩
    rw [List.mem_filter, List.mem_filter, Bool.not_eq_true', beq_iff_eq] at ha
    obtain ⟨⟨hmem, hen⟩, henvironment⟩ := ha
    exact ⟨a, hmem, hen, henvironment, rfl⟩
  · rintro ⟨a, hmem, hen, henvironment, rfl⟩
    refine ⟨a, ?_, rfl⟩
    rw [List.mem_filter, List.mem_filter, Bool.not_eq_true', beq_iff_eq]
    exact ⟨⟨hmem, hen⟩, henvironment⟩

/-- The branches are those of the environments of alerts that are not disabled, each with their
leaves. -/
theorem mem_branches {alerts : List Alert} {r : Route} :
    r ∈ branches alerts ↔ ∃ a ∈ alerts, a.isDisabled = false ∧
      r = branch a.environment (leavesIn alerts a.environment) := by
  unfold branches
  rw [List.mem_map]
  constructor
  · rintro ⟨⟨environment, leaves⟩, hmem, rfl⟩
    rw [SortedMap.mem_entries_iff, find?_leavesByEnvironment] at hmem
    split at hmem
    · next hex =>
      obtain ⟨a, ha, rfl⟩ := hex
      rw [List.mem_filter, Bool.not_eq_true'] at ha
      rw [← Option.some.inj hmem]
      exact ⟨a, ha.1, ha.2, rfl⟩
    · nomatch hmem
  · rintro ⟨a, ha, hen, rfl⟩
    have hex : ∃ b ∈ alerts.filter fun b => !b.isDisabled, b.environment = a.environment := by
      refine ⟨a, ?_, rfl⟩
      rw [List.mem_filter, hen]
      exact ⟨ha, rfl⟩
    refine ⟨(a.environment, leavesIn alerts a.environment), ?_, rfl⟩
    rw [SortedMap.mem_entries_iff, find?_leavesByEnvironment, if_pos hex]
    rfl

/-- The nodes of the tree are the root, the branches, and the leaves of the alerts that are not
disabled. -/
theorem mem_nodes_root {alerts : List Alert} {n : Route} :
    n ∈ (root (branches alerts)).nodes ↔
      n = root (branches alerts) ∨ n ∈ branches alerts ∨
        ∃ a ∈ alerts, a.isDisabled = false ∧ n = leaf a := by
  rw [mem_nodes]
  apply or_congr_right
  constructor
  · rintro ⟨r, hr, hn⟩
    obtain ⟨a, ha, hen, rfl⟩ := mem_branches.1 hr
    obtain rfl | ⟨l, hl, hn⟩ := mem_nodes.1 hn
    · exact .inl hr
    · obtain ⟨b, hb, hben, -, rfl⟩ := mem_leavesIn.1 hl
      obtain rfl | ⟨c, hc, -⟩ := mem_nodes.1 hn
      · exact .inr ⟨b, hb, hben, rfl⟩
      · nomatch hc
  · rintro (hr | ⟨a, ha, hen, rfl⟩)
    · exact ⟨n, hr, mem_nodes.2 (.inl rfl)⟩
    · -- The leaf of an alert is in the branch of its environment.
      have hin : leaf a ∈ leavesIn alerts a.environment :=
        mem_leavesIn.2 ⟨a, ha, hen, rfl, rfl⟩
      refine ⟨_, mem_branches.2 ⟨a, ha, hen, rfl⟩, mem_nodes.2 (.inr ⟨leaf a, hin, ?_⟩)⟩
      exact mem_nodes.2 (.inl rfl)

/-- Of the branches, the one of an environment is the first that applies to its labels. -/
theorem find?_branches {alerts : List Alert} {labels : SortedMap String} {a : Alert}
    (ha : a ∈ alerts) (hen : a.isDisabled = false)
    (hlabel : labels.find? "environment" = some a.environment) :
    (branches alerts).find? (applies labels) =
      some (branch a.environment (leavesIn alerts a.environment)) := by
  apply find?_eq_some_of_unique
  · exact mem_branches.2 ⟨a, ha, hen, rfl⟩
  · exact (applies_branch labels _ _).2 hlabel
  · intro r hr happlies
    obtain ⟨b, -, -, rfl⟩ := mem_branches.1 hr
    have hb := (applies_branch labels _ _).1 happlies
    have henvironment : b.environment = a.environment := Option.some.inj (hb.symm.trans hlabel)
    rw [henvironment]

/-- Of the leaves in the environment of an alert, its own is the first that applies to labels with
its id. -/
theorem find?_leavesIn {alerts : List Alert} {labels : SortedMap String} {a : Alert}
    (hids : ∀ b ∈ alerts, b.id = a.id → b = a) (ha : a ∈ alerts) (hen : a.isDisabled = false)
    (hlabel : labels.find? "alert_id" = some a.id) :
    (leavesIn alerts a.environment).find? (applies labels) = some (leaf a) := by
  apply find?_eq_some_of_unique
  · exact mem_leavesIn.2 ⟨a, ha, hen, rfl, rfl⟩
  · exact (applies_leaf labels a).2 hlabel
  · intro r hr happlies
    obtain ⟨b, hb, -, -, rfl⟩ := mem_leavesIn.1 hr
    have hid := (applies_leaf labels b).1 happlies
    rw [hids b hb (Option.some.inj (hid.symm.trans hlabel))]

/-- Labels with the environment and the id of an alert that is not disabled go through the branch
of the environment to the leaf of the alert. -/
theorem walk_root {alerts : List Alert} {labels : SortedMap String} {a : Alert}
    (hids : ∀ b ∈ alerts, b.id = a.id → b = a) (ha : a ∈ alerts) (hen : a.isDisabled = false)
    (henvironment : labels.find? "environment" = some a.environment)
    (hid : labels.find? "alert_id" = some a.id) :
    (root (branches alerts)).walk labels =
      [root (branches alerts), branch a.environment (leavesIn alerts a.environment), leaf a] := by
  -- The root passes the labels on to the branch, the branch to the leaf, and the leaf to nobody.
  show root (branches alerts) :: walk.walkFirst labels (branches alerts) = _
  rw [walkFirst_eq, find?_branches ha hen henvironment]
  show root (branches alerts) :: branch a.environment _ ::
    walk.walkFirst labels (leavesIn alerts a.environment) = _
  rw [walkFirst_eq, find?_leavesIn hids ha hen hid]
  rfl

end RoutingConfig

end AlertSync
