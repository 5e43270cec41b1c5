import AlertSync.Proofs.Duration
import AlertSync.Proofs.Routing.Identity
import AlertSync.Proofs.Yaml.Forms
import AlertSync.Route.Config
import AlertSync.Scrape

/-!
# Reading back generated files

The configuration of the alerting backend, the rule file and the scrape jobs are written as YAML for
other systems to read. Whatever texts stand in them, reading them as the same type gives the value
back if its durations are whole and its collections are not nested too deep
(`generated_read_back`). Only a routing tree has a depth of its own: rule files and scrape jobs are
never nested too deep, nor is any configuration that is built from stored objects.

Each type has its `ofForm?_formOf`: what is written of a value is read as the value where as many
more levels of collections may be nested as the type has. For a routing tree it is an induction on
the levels of routes that the reader still expects, in which both directions are needed: a tree that
is nested too deep is not read at all.
-/

namespace AlertSync

open Yaml (depth_formOf_lt_list depth_formOf_lt_record flag?_formOf formOf formOf_text
  list?_formOf_map parts?_formOf part?_formsOf part?_formsOf_list part?_formsOf_list_eq_ite
  part?_formsOf_map_eq_ite part?_formsOf_optional required?_formsOf text?_formOf textMap?_formOf)

/-- A duration in its text form is read back. -/
theorem Duration.ofForm?_formOf {d : Duration} (h : d.IsWhole) (depth : Nat) (shape : Shape) :
    ofForm? (formOf depth shape (.text d.text)) = some d := by
  unfold ofForm?
  rw [formOf_text]
  exact parse?_text h

/-! ## Rules -/

namespace Rule

/-- A rule is read back. -/
theorem ofForm?_formOf {r : Rule} (h : ∀ d ∈ r.hold, d.IsWhole) (depth : Nat) :
    ofForm? (formOf (depth + 2) shape r.tree) = some r := by
  unfold ofForm? tree
  rw [shape, parts?_formOf]
  · dsimp only [Option.bind_eq_bind, Option.bind_some]
    rw [required?_formsOf (by rfl) (.text r.alert) (by simp) (text?_formOf _ .scalar _),
      required?_formsOf (by rfl) (.text r.expr) (by simp [List.lookup_cons])
        (text?_formOf _ .scalar _),
      part?_formsOf_optional r.hold Duration.text (by rfl)
        (by simp [List.lookup_cons, List.lookup_append]; rfl)
        fun d hd => Duration.ofForm?_formOf (h d hd) _ .scalar,
      part?_formsOf (by rfl) (.textRecord r.labels) (by simp [List.lookup_cons, List.lookup_append])
        (textMap?_formOf depth r.labels)]
    rfl
  · simp only [List.map_append]
    exact ((List.Sublist.refl _).append (Tree.names_part?_sublist _ _)).append (.refl _)
  · decide

end Rule

namespace RuleGroup

/-- A group is read back. -/
theorem ofForm?_formOf {g : RuleGroup} (h : ∀ r ∈ g.rules, ∀ d ∈ r.hold, d.IsWhole) (depth : Nat) :
    ofForm? (formOf (depth + 4) shape g.tree) = some g := by
  unfold ofForm? tree
  rw [shape, parts?_formOf]
  · dsimp only [Option.bind_eq_bind, Option.bind_some]
    rw [required?_formsOf (by rfl) (.text g.name) (by simp) (text?_formOf _ .scalar _),
      required?_formsOf (by rfl) (.list (g.rules.map Rule.tree)) (by simp [List.lookup_cons])
        (list?_formOf_map fun r hr => Rule.ofForm?_formOf (h r hr) depth)]
    rfl
  · exact .refl _
  · decide

end RuleGroup

namespace RuleGroups

/-- The durations in a rule file. -/
def durations (g : RuleGroups) : List Duration :=
  g.groups.flatMap fun group => group.rules.flatMap fun r => r.hold.toList

/-- A rule file is read back. -/
theorem ofForm?_formOf {g : RuleGroups} (h : ∀ d ∈ g.durations, d.IsWhole) (depth : Nat) :
    ofForm? (formOf (depth + 6) shape g.tree) = some g := by
  have hgroups : ∀ group ∈ g.groups, ∀ r ∈ group.rules, ∀ d ∈ r.hold, d.IsWhole :=
    fun group hgroup r hr d hd => h d (List.mem_flatMap.2 ⟨group, hgroup,
      List.mem_flatMap.2 ⟨r, hr, Option.mem_toList.2 hd⟩⟩)
  unfold ofForm? tree
  rw [shape, parts?_formOf]
  · dsimp only [Option.bind_eq_bind, Option.bind_some]
    rw [required?_formsOf (by rfl) (.list (g.groups.map RuleGroup.tree)) (by simp)
      (list?_formOf_map fun group hgroup => RuleGroup.ofForm?_formOf (hgroups group hgroup) depth)]
    rfl
  · exact .refl _
  · decide

end RuleGroups

/-! ## Scrape jobs -/

namespace TargetGroup

/-- Targets are read back. -/
theorem ofForm?_formOf (g : TargetGroup) (depth : Nat) :
    ofForm? (formOf (depth + 2) shape g.tree) = some g := by
  unfold ofForm? tree
  rw [shape, parts?_formOf]
  · dsimp only [Option.bind_eq_bind, Option.bind_some]
    rw [part?_formsOf (by rfl) (.texts g.targets) (by simp)
        (list?_formOf_map fun s _ => text?_formOf depth .scalar s),
      part?_formsOf (by rfl) (.textRecord g.labels) (by simp [List.lookup_cons])
        (textMap?_formOf depth g.labels)]
    rfl
  · exact .refl _
  · decide

end TargetGroup

namespace ScrapeConfig

/-- A job is read back. -/
theorem ofForm?_formOf (c : ScrapeConfig) (depth : Nat) :
    ofForm? (formOf (depth + 4) shape c.tree) = some c := by
  unfold ofForm? tree
  rw [shape, parts?_formOf]
  · dsimp only [Option.bind_eq_bind, Option.bind_some]
    rw [required?_formsOf (by rfl) (.text c.jobName) (by simp) (text?_formOf _ .scalar _),
      part?_formsOf (by rfl) (.list (c.groups.map TargetGroup.tree)) (by simp [List.lookup_cons])
        (list?_formOf_map fun g _ => TargetGroup.ofForm?_formOf g depth)]
    rfl
  · exact .refl _
  · decide

end ScrapeConfig

/-! ## The configuration of the alerting backend -/

namespace GlobalConfig

/-- Global settings are read back. -/
theorem ofForm?_formOf {g : GlobalConfig} (h : g.resolveTimeout.IsWhole) (depth : Nat) :
    ofForm? (formOf (depth + 1) shape g.tree) = some g := by
  unfold ofForm? tree
  rw [shape, parts?_formOf]
  · dsimp only [Option.bind_eq_bind, Option.bind_some]
    rw [required?_formsOf (by rfl) g.resolveTimeout.tree (by simp)
        (Duration.ofForm?_formOf h depth .scalar),
      part?_formsOf_optional g.smtpFrom id (by rfl)
        (by simp [List.lookup_cons, List.lookup_append]) fun s _ => text?_formOf depth .scalar s,
      part?_formsOf_optional g.smtpSmarthost id (by rfl)
        (by simp [List.lookup_cons, List.lookup_append]) fun s _ => text?_formOf depth .scalar s,
      part?_formsOf_optional g.smtpAuthUsername id (by rfl)
        (by simp [List.lookup_cons, List.lookup_append]) fun s _ => text?_formOf depth .scalar s,
      part?_formsOf_optional g.smtpAuthPassword id (by rfl)
        (by simp [List.lookup_cons, List.lookup_append]) fun s _ => text?_formOf depth .scalar s,
      part?_formsOf (by rfl) (.flag g.smtpRequireTls)
        (by simp [List.lookup_cons, List.lookup_append]) (flag?_formOf depth .scalar _)]
    rfl
  · simp only [List.map_append]
    exact (((((List.Sublist.refl _).append (Tree.names_part?_sublist _ _)).append
      (Tree.names_part?_sublist _ _)).append (Tree.names_part?_sublist _ _)).append
      (Tree.names_part?_sublist _ _)).append (.refl _)
  · decide

/-- Global settings are nested once. -/
theorem depth_tree_le (g : GlobalConfig) (n : Nat) : g.tree.depth ≤ n + 1 := by
  have hwords (value : Option String) := Tree.depth_le_of_mem_texts value id n
  rw [tree, Tree.depth_record_le_iff]
  simp only [List.forall_mem_append, List.forall_mem_singleton, Tree.forall_mem_part?]
  exact ⟨⟨⟨⟨⟨Nat.zero_le n, hwords _⟩, hwords _⟩, hwords _⟩, hwords _⟩, Nat.zero_le n⟩

end GlobalConfig

namespace EmailReceiver

/-- A receiver of mail is read back. -/
theorem ofForm?_formOf (r : EmailReceiver) (depth : Nat) :
    ofForm? (formOf (depth + 2) shape r.tree) = some r := by
  unfold ofForm? tree
  rw [shape, parts?_formOf]
  · dsimp only [Option.bind_eq_bind, Option.bind_some]
    rw [required?_formsOf (by rfl) (.text r.address) (by simp) (text?_formOf _ .scalar _),
      part?_formsOf (by rfl) (.textRecord r.headers) (by simp [List.lookup_cons])
        (textMap?_formOf depth r.headers)]
    rfl
  · exact .refl _
  · decide

theorem depth_tree_le (r : EmailReceiver) (n : Nat) : r.tree.depth ≤ n + 2 := by
  rw [tree, Tree.depth_record_le_iff]
  simp [Tree.depth, Tree.depth_textRecord_le_iff]

end EmailReceiver

namespace WebhookReceiver

/-- A webhook is read back. -/
theorem ofForm?_formOf (r : WebhookReceiver) (depth : Nat) :
    ofForm? (formOf (depth + 1) shape r.tree) = some r := by
  unfold ofForm? tree
  rw [shape, parts?_formOf]
  · dsimp only [Option.bind_eq_bind, Option.bind_some]
    rw [required?_formsOf (by rfl) (.text r.url) (by simp) (text?_formOf _ .scalar _)]
    rfl
  · exact .refl _
  · decide

theorem depth_tree_le (r : WebhookReceiver) (n : Nat) : r.tree.depth ≤ n + 1 := by
  rw [tree, Tree.depth_record_le_iff]
  simp [Tree.depth]

end WebhookReceiver

namespace Receiver

/-- A receiver is read back. -/
theorem ofForm?_formOf (r : Receiver) (depth : Nat) :
    ofForm? (formOf (depth + 4) shape r.tree) = some r := by
  unfold ofForm? tree
  rw [shape, parts?_formOf]
  · dsimp only [Option.bind_eq_bind, Option.bind_some]
    rw [required?_formsOf (by rfl) (.text r.name) (by simp) (text?_formOf _ .scalar _),
      part?_formsOf_list r.emails EmailReceiver.tree (by rfl)
        (by simp [List.lookup_cons, List.lookup_append])
        fun e _ => EmailReceiver.ofForm?_formOf e depth,
      part?_formsOf_list r.webhooks WebhookReceiver.tree (by rfl)
        (by simp [List.lookup_cons, List.lookup_append])
        fun w _ => WebhookReceiver.ofForm?_formOf w (depth + 1)]
    rfl
  · simp only [List.map_append]
    exact ((List.Sublist.refl _).append (Tree.names_listPart?_sublist _ _)).append
      (Tree.names_listPart?_sublist _ _)
  · decide

/-- A receiver is nested as deep as its mail is. -/
theorem depth_tree_le (r : Receiver) (n : Nat) : r.tree.depth ≤ n + 4 := by
  have hemails : (Tree.list (r.emails.map EmailReceiver.tree)).depth ≤ n + 3 :=
    Tree.depth_list_le_iff.2 (List.forall_mem_map.2 fun e _ => e.depth_tree_le n)
  have hwebhooks : (Tree.list (r.webhooks.map WebhookReceiver.tree)).depth ≤ n + 3 :=
    Tree.depth_list_le_iff.2 (List.forall_mem_map.2 fun w _ => w.depth_tree_le (n + 1))
  rw [tree, Tree.depth_record_le_iff]
  simp only [List.forall_mem_append, List.forall_mem_singleton, Tree.forall_mem_listPart?]
  exact ⟨⟨Nat.zero_le _, fun _ => hemails⟩, fun _ => hwebhooks⟩

end Receiver

namespace Route

/-- The durations that a route gives itself. -/
def ownDurations (r : Route) : List Duration :=
  r.groupWait.toList ++ r.groupInterval.toList ++ r.repeatInterval.toList

/-- The durations in a routing tree. -/
def durations (r : Route) : List Duration := r.nodes.flatMap ownDurations

/-- The durations in a routing tree are those of the route and those below it. -/
theorem mem_durations {r : Route} {d : Duration} :
    d ∈ r.durations ↔ d ∈ r.ownDurations ∨ ∃ c ∈ r.routes, d ∈ c.durations := by
  rw [durations, List.mem_flatMap]
  constructor
  · rintro ⟨n, hn, hd⟩
    obtain rfl | ⟨c, hc, hn⟩ := mem_nodes.1 hn
    · exact .inl hd
    · exact .inr ⟨c, hc, List.mem_flatMap.2 ⟨n, hn, hd⟩⟩
  · rintro (hd | ⟨c, hc, hd⟩)
    · exact ⟨r, mem_nodes.2 (.inl rfl), hd⟩
    · obtain ⟨n, hn, hd⟩ := List.mem_flatMap.1 hd
      exact ⟨n, mem_nodes.2 (.inr ⟨c, hc, hn⟩), hd⟩

theorem treeList_eq_map (rs : List Route) : tree.treeList rs = rs.map tree := by
  induction rs with
  | nil => rfl
  | cons r rs ih => rw [tree.treeList, ih, List.map_cons]

/-- A route as a record of parts of which each may be left out. -/
theorem tree_mk (receiver : Option String) (matchers : SortedMap String)
    (wait interval again : Option Duration) (routes : List Route) :
    (mk receiver matchers wait interval again routes).tree =
      .record (Tree.part? "receiver" (receiver.map .text) ++
        Tree.part? "match" (if matchers.isEmpty then none else some (.textRecord matchers)) ++
        Tree.part? "group_wait" (wait.map Duration.tree) ++
        Tree.part? "group_interval" (interval.map Duration.tree) ++
        Tree.part? "repeat_interval" (again.map Duration.tree) ++
        Tree.listPart? "routes" (routes.map tree)) := by
  rw [tree, treeList_eq_map]
  cases matchers.isEmpty <;> rfl

/-- How deep a route is nested: deeper than its matchers, if it has any, and deeper by two than each
of its children. -/
theorem depth_tree_le_iff (r : Route) (n : Nat) :
    r.tree.depth ≤ n + 1 ↔
      (r.matchers.isEmpty = true ∨ 1 ≤ n) ∧ ∀ c ∈ r.routes, c.tree.depth + 1 ≤ n := by
  obtain ⟨receiver, matchers, wait, interval, again, routes⟩ := r
  have hwords {α : Type} (value : Option α) (word : α → String) :=
    Tree.depth_le_of_mem_texts value word n
  have hmatch : (∀ t ∈ if matchers.isEmpty then none else some (Tree.textRecord matchers),
      t.depth ≤ n) ↔ matchers.isEmpty = true ∨ 1 ≤ n := by
    cases matchers.isEmpty <;> simp [Tree.depth_textRecord_le_iff]
  have hroutes : (routes.map tree ≠ [] → (Tree.list (routes.map tree)).depth ≤ n) ↔
      ∀ c ∈ routes, c.tree.depth + 1 ≤ n := by
    cases routes with
    | nil => simp
    | cons c routes =>
      cases n with
      | zero =>
        exact ⟨fun h => absurd (h nofun) (Nat.not_succ_le_zero _),
          fun h => absurd (h c List.mem_cons_self) (Nat.not_succ_le_zero _)⟩
      | succ n =>
        rw [Tree.depth_list_le_iff, List.forall_mem_map]
        simp
  rw [tree_mk, Tree.depth_record_le_iff]
  simp only [List.forall_mem_append, Tree.forall_mem_part?, Tree.forall_mem_listPart?, hmatch,
    hroutes]
  exact ⟨fun h => ⟨h.1.1.1.1.2, h.2⟩, fun h => ⟨⟨⟨⟨⟨hwords receiver id, h.1⟩,
    hwords wait Duration.text⟩, hwords interval Duration.text⟩, hwords again Duration.text⟩, h.2⟩⟩

/-- The shape of the children of a route is that of a route again, as far down as they can be
read. -/
theorem exists_shapeWithin {k depth : Nat} (h : depth + 1 ≤ 2 * k + 2) :
    ∃ child, shapeWithin k = shapeWithin.partsOf child ∧ ∀ d, depth = d + 1 →
      ∃ k', d ≤ 2 * k' + 2 ∧
        ∀ r : Route, formOf d child r.tree = formOf d (shapeWithin k') r.tree := by
  cases k with
  | zero =>
    refine ⟨.record [], rfl, fun d hd => ⟨0, by omega, ?_⟩⟩
    obtain rfl : d = 0 := by omega
    exact fun ⟨_, _, _, _, _, _⟩ => rfl
  | succ k => exact ⟨shapeWithin k, rfl, fun d hd => ⟨k, by omega, fun _ => rfl⟩⟩

/-- What is written of a child is nested less deep than what is written of the route. -/
theorem depth_formOf_lt {r c : Route} (h : c ∈ r.routes) (child : Shape) (depth : Nat) :
    (formOf depth child c.tree).depth <
      (formOf (depth + 2) (shapeWithin.partsOf child) r.tree).depth := by
  obtain ⟨receiver, matchers, wait, interval, again, routes⟩ := r
  have hitem : (formOf depth child c.tree).depth <
      (formOf (depth + 1) (.list child) (.list (routes.map tree))).depth :=
    depth_formOf_lt_list (List.mem_map_of_mem h)
  have hne : routes ≠ [] := List.ne_nil_of_mem h
  rw [tree_mk]
  unfold shapeWithin.partsOf
  exact Nat.lt_trans hitem
    (depth_formOf_lt_record "routes" (by rfl) (by simp [List.lookup_append, hne]))

/-- A route is read back if its matchers and its children are. -/
theorem ofFormWithin?_formOf_succ {levels depth : Nat} {child : Shape} {r : Route}
    (hwhole : ∀ d ∈ r.ownDurations, d.IsWhole)
    (hread : ∀ d, depth = d + 1 → ∀ c ∈ r.routes, ofFormWithin? levels (formOf d child c.tree) =
      if c.tree.depth ≤ d then some c else none) :
    ofFormWithin? (levels + 1) (formOf (depth + 1) (shapeWithin.partsOf child) r.tree) =
      if (r.matchers.isEmpty = true ∨ 1 ≤ depth) ∧ ∀ c ∈ r.routes, c.tree.depth + 1 ≤ depth then
        some r
      else none := by
  obtain ⟨receiver, matchers, wait, interval, again, routes⟩ := r
  have hduration {value : Option Duration}
      (h : ∀ d ∈ value, d ∈ wait.toList ++ interval.toList ++ again.toList) :
      ∀ d ∈ value, Duration.ofForm? (formOf depth .scalar (.text d.text)) = some d :=
    fun d hd => Duration.ofForm?_formOf (hwhole d (h d hd)) depth .scalar
  have hdistinct : shape.names.Nodup := by decide
  unfold ofFormWithin?
  rw [tree_mk, show shape.names = (shapeWithin.partsOf child).names from rfl]
  unfold shapeWithin.partsOf
  rw [parts?_formOf]
  · simp only [Option.bind_eq_bind, Option.bind_some]
    rw [part?_formsOf_optional receiver id (by rfl) (by simp [List.lookup_append])
        fun s _ => text?_formOf depth .scalar s,
      part?_formsOf_map_eq_ite matchers (by rfl) (by simp [List.lookup_append]),
      part?_formsOf_optional wait Duration.text (by rfl) (by simp [List.lookup_append]; rfl)
        (hduration fun d hd => by simp [Option.mem_def.1 hd]),
      part?_formsOf_optional interval Duration.text (by rfl) (by simp [List.lookup_append]; rfl)
        (hduration fun d hd => by simp [Option.mem_def.1 hd]),
      part?_formsOf_optional again Duration.text (by rfl) (by simp [List.lookup_append]; rfl)
        (hduration fun d hd => by simp [Option.mem_def.1 hd]),
      part?_formsOf_list_eq_ite routes tree (by rfl) (by simp [List.lookup_append]) hread]
    by_cases hmatch : matchers.isEmpty = true ∨ 1 ≤ depth
    · by_cases hroutes : ∀ c ∈ routes, c.tree.depth + 1 ≤ depth
      · rw [if_pos hmatch, if_pos hroutes]
        exact (if_pos ⟨hmatch, hroutes⟩).symm
      · rw [if_pos hmatch, if_neg hroutes]
        exact (if_neg fun h => hroutes h.2).symm
    · rw [if_neg hmatch]
      exact (if_neg fun h => hmatch h.1).symm
  · simp only [List.map_append]
    exact (((((Tree.names_part?_sublist _ _).append (Tree.names_part?_sublist _ _)).append
      (Tree.names_part?_sublist _ _)).append (Tree.names_part?_sublist _ _)).append
      (Tree.names_part?_sublist _ _)).append (Tree.names_listPart?_sublist _ _)
  · exact hdistinct

/-- A routing tree is read back up to the depth to which collections may be nested. -/
theorem ofFormWithin?_formOf (levels : Nat) : ∀ {k depth : Nat} {r : Route},
    (∀ d ∈ r.durations, d.IsWhole) → depth ≤ 2 * k + 2 →
    (formOf depth (shapeWithin k) r.tree).depth < levels →
    ofFormWithin? levels (formOf depth (shapeWithin k) r.tree) =
      if r.tree.depth ≤ depth then some r else none := by
  induction levels with
  | zero => exact fun _ _ h => absurd h (Nat.not_lt_zero _)
  | succ levels ih =>
    intro k depth r hwhole hdepth hlevels
    cases depth with
    | zero =>
      obtain ⟨receiver, matchers, wait, interval, again, routes⟩ := r
      exact (if_neg (Nat.not_succ_le_zero _)).symm
    | succ depth =>
      obtain ⟨child, hshape, hchild⟩ := exists_shapeWithin hdepth
      rw [hshape] at hlevels ⊢
      rw [ofFormWithin?_formOf_succ fun d hd => hwhole d (mem_durations.2 (.inl hd))]
      · simp only [depth_tree_le_iff]
      · intro d hd c hc
        obtain ⟨k', hk', hforms⟩ := hchild d hd
        have hdurations : ∀ e ∈ c.durations, e.IsWhole := fun e he =>
          hwhole e (mem_durations.2 (.inr ⟨c, hc, he⟩))
        have hlt := depth_formOf_lt hc child d
        subst hd
        rw [hforms] at hlt ⊢
        exact ih hdurations hk' (Nat.lt_of_lt_of_le hlt (Nat.le_of_lt_succ hlevels))

/-- A routing tree is read back up to the depth to which collections may be nested. -/
theorem ofForm?_formOf {r : Route} (h : ∀ d ∈ r.durations, d.IsWhole) {depth : Nat}
    (hdepth : depth ≤ Form.maxDepth) :
    ofForm? (formOf depth shape r.tree) = if r.tree.depth ≤ depth then some r else none := by
  unfold Form.maxDepth at hdepth
  exact ofFormWithin?_formOf _ h (by unfold Form.maxDepth; omega) (Nat.lt_succ_self _)

end Route

namespace RoutingConfig

/-- The durations in a configuration. -/
def durations (c : RoutingConfig) : List Duration := c.global.resolveTimeout :: c.route.durations

/-- A configuration is nested deeper than its routing tree. -/
theorem depth_tree_le_iff (c : RoutingConfig) (n : Nat) :
    c.tree.depth ≤ n + 6 ↔ c.route.tree.depth ≤ n + 5 := by
  have hreceivers : (Tree.list (c.receivers.map Receiver.tree)).depth ≤ n + 5 :=
    Tree.depth_list_le_iff.2 (List.forall_mem_map.2 fun r _ => r.depth_tree_le n)
  rw [tree, Tree.depth_record_le_iff]
  simp [hreceivers, c.global.depth_tree_le (n + 4)]

/-- A configuration is read back if it is not nested too deep; otherwise it is not read. -/
theorem ofForm?_formOf {c : RoutingConfig} (h : ∀ d ∈ c.durations, d.IsWhole) :
    ofForm? (formOf Form.maxDepth shape c.tree) =
      if c.tree.depth ≤ Form.maxDepth then some c else none := by
  obtain ⟨hglobal, hroute⟩ := List.forall_mem_cons.1 h
  have hroute := Route.ofForm?_formOf hroute (show 127 ≤ Form.maxDepth by decide)
  have hdepth : c.tree.depth ≤ Form.maxDepth ↔ c.route.tree.depth ≤ 127 := c.depth_tree_le_iff 122
  unfold ofForm?
  rw [tree, shape]
  show ((formOf (127 + 1) _ _).parts? _).bind _ = _
  rw [parts?_formOf]
  · simp only [Option.bind_eq_bind, Option.bind_some]
    rw [required?_formsOf (by rfl) c.global.tree (by simp)
        (GlobalConfig.ofForm?_formOf hglobal 126),
      required?_formsOf (by rfl) c.route.tree (by simp [List.lookup_cons]) hroute,
      part?_formsOf (by rfl) (.list (c.receivers.map Receiver.tree)) (by simp [List.lookup_cons])
        (list?_formOf_map fun r _ => Receiver.ofForm?_formOf r 122)]
    by_cases h : c.route.tree.depth ≤ 127
    · rw [if_pos h]
      exact (if_pos (hdepth.2 h)).symm
    · rw [if_neg h]
      exact (if_neg fun hle => h (hdepth.1 hle)).symm
  · exact .refl _
  · decide

/-- Every duration that `build` puts into a configuration is whole. -/
theorem isWhole_of_mem_build {settings : Option AlertConfig} {alerts : List Alert}
    {recipients : List Recipient} :
    ∀ d ∈ (build settings alerts recipients).durations, d.IsWhole := by
  have hparsed {s : String} {d : Duration} (h : d ∈ (Duration.parse? s).toList) : d.IsWhole :=
    Duration.isWhole_of_parse? (Option.mem_toList.1 h)
  refine List.forall_mem_cons.2 ⟨?_, fun d hd => ?_⟩
  · show ((settings.bind fun c => Duration.parse? c.resolveTimeout).getD
      (.ofSeconds (5 * 60))).IsWhole
    cases h : settings.bind fun c => Duration.parse? c.resolveTimeout with
    | none => exact Duration.isWhole_ofSeconds (by decide)
    | some d =>
      obtain ⟨c, -, hc⟩ := Option.bind_eq_some_iff.1 h
      exact Duration.isWhole_of_parse? hc
  · obtain ⟨n, hn, hd⟩ := List.mem_flatMap.1 hd
    rw [build_route] at hn
    obtain rfl | hn | ⟨a, -, -, rfl⟩ := mem_nodes_root.1 hn
    · -- The root gives times of its own.
      simp only [Route.ownDurations, root, Route.groupWait, Route.groupInterval,
        Route.repeatInterval, Option.toList_some, List.mem_append, List.mem_singleton] at hd
      rcases hd with (rfl | rfl) | rfl <;> exact Duration.isWhole_ofSeconds (by decide)
    · obtain ⟨a, -, -, rfl⟩ := mem_branches.1 hn
      cases hd
    · -- The times of a leaf are those of the alert's options that are durations.
      simp only [Route.ownDurations, leaf, Route.groupWait, Route.groupInterval,
        Route.repeatInterval, Option.toList_none, List.append_nil, List.mem_append] at hd
      exact hd.elim hparsed hparsed

/-- What `build` makes is nested seven deep. -/
theorem depth_tree_build_le (settings : Option AlertConfig) (alerts : List Alert)
    (recipients : List Recipient) : (build settings alerts recipients).tree.depth ≤ 7 := by
  have hleaf (a : Alert) : (leaf a).tree.depth ≤ 2 :=
    (Route.depth_tree_le_iff _ 1).2 ⟨.inr (Nat.le_refl 1), nofun⟩
  have hbranch (environment : String) :
      (branch environment (leavesIn alerts environment)).tree.depth ≤ 4 := by
    refine (Route.depth_tree_le_iff _ 3).2 ⟨.inr (by decide), fun c hc => ?_⟩
    obtain ⟨a, -, -, -, rfl⟩ := mem_leavesIn.1 hc
    exact Nat.succ_le_succ (hleaf a)
  have hroot : (root (branches alerts)).tree.depth ≤ 6 := by
    refine (Route.depth_tree_le_iff _ 5).2 ⟨.inl rfl, fun c hc => ?_⟩
    obtain ⟨a, -, -, rfl⟩ := mem_branches.1 hc
    exact Nat.succ_le_succ (hbranch a.environment)
  exact (depth_tree_le_iff _ 1).2 hroot

end RoutingConfig

/-- Every duration that `ofAlerts` puts into a rule file is whole. -/
theorem RuleGroups.isWhole_of_mem_ofAlerts {alerts : List Alert} :
    ∀ d ∈ (ofAlerts alerts).durations, d.IsWhole := by
  intro d hd
  obtain ⟨g, hg, hd⟩ := List.mem_flatMap.1 hd
  obtain ⟨r, hr, hd⟩ := List.mem_flatMap.1 hd
  obtain ⟨a, -, -, rfl⟩ := mem_ofAlerts.1 ⟨g, hg, hr⟩
  have hhold : (Duration.parse? a.holdDuration).filter (fun d => !d.isZero) = some d :=
    Option.mem_toList.1 hd
  exact Duration.isWhole_of_parse? (Option.eq_some_of_filter_eq_some hhold)

/-! ## Whole files -/

/-- Whether a value, written as YAML, is read back as itself. -/
def Yaml.ReadsBack {α : Type} (tree : α → Tree) (shape : Shape) (read : Form → Option α)
    (a : α) : Prop :=
  (Yaml.form? shape (Yaml.text (Yaml.ofTree (tree a)))).bind read = some a

/-- Whether a configuration of the alerting backend is read back from its file. -/
def RoutingConfig.ReadsBack (c : RoutingConfig) : Prop := Yaml.ReadsBack tree shape ofForm? c

/-- Whether a rule file is read back. -/
def RuleGroups.ReadsBack (g : RuleGroups) : Prop := Yaml.ReadsBack tree shape ofForm? g

/-- Whether scrape jobs are read back from a file that lists them. -/
def ScrapeConfig.ReadBack (l : List ScrapeConfig) : Prop :=
  Yaml.ReadsBack (fun l => .list (l.map tree)) (.list shape) (Form.list? ofForm?) l

theorem RoutingConfig.readsBack_iff {c : RoutingConfig} (h : ∀ d ∈ c.durations, d.IsWhole) :
    c.ReadsBack ↔ c.tree.depth ≤ Form.maxDepth := by
  unfold RoutingConfig.ReadsBack Yaml.ReadsBack
  rw [Yaml.form?_text, Option.bind_some, ofForm?_formOf h]
  simp

theorem RuleGroups.readsBack {g : RuleGroups} (h : ∀ d ∈ g.durations, d.IsWhole) :
    g.ReadsBack := by
  unfold RuleGroups.ReadsBack Yaml.ReadsBack
  rw [Yaml.form?_text]
  exact ofForm?_formOf h 122

theorem ScrapeConfig.readBack (l : List ScrapeConfig) : ReadBack l := by
  unfold ReadBack Yaml.ReadsBack
  rw [Yaml.form?_text]
  exact list?_formOf_map fun c _ => ofForm?_formOf c 123

/-- Generated files are read back. A configuration of the alerting backend with whole durations is,
just if its collections are not nested too deep; rule files with whole durations and scrape jobs
always are, and so is everything that is built from stored objects and from an inventory. -/
theorem generated_read_back :
    (∀ c : RoutingConfig, (∀ d ∈ c.durations, d.IsWhole) →
      (c.ReadsBack ↔ c.tree.depth ≤ Form.maxDepth)) ∧
    (∀ g : RuleGroups, (∀ d ∈ g.durations, d.IsWhole) → g.ReadsBack) ∧
    (∀ l : List ScrapeConfig, ScrapeConfig.ReadBack l) ∧
    (∀ settings alerts recipients,
      (RoutingConfig.build settings alerts recipients).ReadsBack) ∧
    (∀ alerts, (RuleGroups.ofAlerts alerts).ReadsBack) ∧
    ∀ inventory ports, ScrapeConfig.ReadBack (ScrapeConfig.build inventory ports) := by
  refine ⟨fun c h => RoutingConfig.readsBack_iff h, fun g h => RuleGroups.readsBack h,
    ScrapeConfig.readBack, fun settings alerts recipients => ?_,
    fun alerts => RuleGroups.readsBack RuleGroups.isWhole_of_mem_ofAlerts,
    fun inventory ports => ScrapeConfig.readBack _⟩
  refine (RoutingConfig.readsBack_iff RoutingConfig.isWhole_of_mem_build).2 ?_
  exact Nat.le_trans (RoutingConfig.depth_tree_build_le settings alerts recipients) (by decide)

/-- A configuration whose texts look like something else: nothing, a number, a comment, a key. -/
def sampleConfig : RoutingConfig where
  global := ⟨.ofSeconds 90, some "null", some "0x1f", none, some "", true⟩
  route := .mk (some "# none") (.ofList [("a: b", "true"), ("~", "- \n ")]) (some .zero) none none
    [.mk none .empty none (some (.ofMillis 1)) none []]
  receivers := [⟨"'", [⟨"\t", .empty⟩], [⟨"http://h/?a=b#c"⟩]⟩]

/-- Rules whose texts look like something else: a block, an alias, a flow collection. -/
def sampleRules : RuleGroups :=
  ⟨[⟨"|", [⟨"*a", "up\n  != 1", some (.ofSeconds 60), .empty⟩, ⟨"\x7b\x7d", "1e3", none, .empty⟩]⟩]⟩

theorem generated_read_back_sample : sampleConfig.ReadsBack ∧ sampleRules.ReadsBack := by
  have hconfig : ∀ d ∈ sampleConfig.durations, d.IsWhole := by
    have hdurations : sampleConfig.durations =
        [.ofMillis 90000, .ofMillis 0, .ofMillis 1] := by decide
    rw [hdurations]
    simp only [List.forall_mem_cons, List.not_mem_nil, false_implies, implies_true, and_true]
    exact ⟨⟨90000, by decide, rfl⟩, ⟨0, by decide, rfl⟩, ⟨1, by decide, rfl⟩⟩
  have hrules : ∀ d ∈ sampleRules.durations, d.IsWhole := by
    have hdurations : sampleRules.durations = [.ofMillis 60000] := by decide
    rw [hdurations, List.forall_mem_singleton]
    exact ⟨60000, by decide, rfl⟩
  exact ⟨(generated_read_back.1 sampleConfig hconfig).2 (by decide),
    generated_read_back.2.1 sampleRules hrules⟩

/-- A route that gives nothing, over so many levels of the same. -/
def emptyRoute : Nat → Route
  | 0 => .mk none .empty none none none []
  | levels + 1 => .mk none .empty none none none [emptyRoute levels]

/-- Each level of routes is two levels of collections. -/
theorem lt_depth_emptyRoute (levels : Nat) : 2 * levels < (emptyRoute levels).tree.depth := by
  induction levels with
  | zero => exact Nat.succ_pos _
  | succ levels ih =>
    refine Nat.lt_of_not_le fun h => ?_
    have hchild := ((Route.depth_tree_le_iff (emptyRoute (levels + 1)) (2 * levels + 1)).1 h).2
      (emptyRoute levels) List.mem_cons_self
    omega

/-- A configuration with 64 levels of routes below its root. -/
def deepConfig : RoutingConfig where
  global := ⟨.ofSeconds 300, none, none, none, none, false⟩
  route := emptyRoute 64
  receivers := []

/-- Routes may be nested too deep to be read back. -/
theorem not_readsBack_deepConfig :
    (∀ d ∈ deepConfig.durations, d.IsWhole) ∧ ¬deepConfig.ReadsBack := by
  have hwhole : ∀ d ∈ deepConfig.durations, d.IsWhole := by
    have hdurations : deepConfig.durations = [.ofMillis 300000] := by decide
    rw [hdurations, List.forall_mem_singleton]
    exact ⟨300000, by decide, rfl⟩
  refine ⟨hwhole, ?_⟩
  rw [RoutingConfig.readsBack_iff hwhole]
  intro hdepth
  have hroute : (emptyRoute 64).tree.depth ≤ 127 :=
    (deepConfig.depth_tree_le_iff 122).1 hdepth
  exact absurd (lt_depth_emptyRoute 64) (Nat.not_lt.2 (Nat.le_succ_of_le hroute))

end AlertSync
