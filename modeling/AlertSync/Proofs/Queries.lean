import AlertSync.Proofs.Sample
import AlertSync.Proofs.Selector
import AlertSync.Rule
import AlertSync.Validation

/-!
# What a health query asks for

The environment and the target of an alert stand in its query as they are, between quotes. Two
queries are the same exactly if they are on the same metric and the same text stands between the
first quote and the last (`query_eq_iff`), and that text does not tell where the environment ends
if there is a quote in it. Without quotes in the environments it does, and a query in whose texts
every character stands for itself is read as the three matchers that are meant
(`read?_healthQuery`), whatever the metrics backend makes of escapes.
-/

namespace AlertSync

/-! ## Health queries -/

/-- What a health query asks of a target of a type: the metric, and the label and state that mean
health. Queries of users have none. -/
def TargetType.health? : TargetType → Option (String × String × String)
  | .host => some ("rancher_host_agent_state", "state", "active")
  | .stack => some ("rancher_stack_health_status", "health_state", "healthy")
  | .service => some ("rancher_service_health_status", "health_state", "healthy")
  | .metric => none

/-- The text of an alert that stands between the first quote of its health query and the quotes of
the state: its environment and its target, and what divides them. -/
def Alert.targetText (a : Alert) : List Char :=
  a.environment.toList ++ "\", id=\"".toList ++ a.targetId.toList

/-- A health query is a text of the type of the target around the text of the alert. -/
theorem Alert.query_toList {a : Alert} {metric label healthy : String}
    (h : a.targetType.health? = some (metric, label, healthy)) :
    a.query = healthQuery metric a.environment a.targetId label healthy ∧
    a.query.toList = metric.toList ++ ("\x7benvironment_id=\"".toList ++ (a.targetText ++
      ("\", ".toList ++ label.toList ++ "=\"".toList ++ healthy.toList ++
        "\"\x7d != 1".toList))) := by
  have hquery : a.query = healthQuery metric a.environment a.targetId label healthy := by
    unfold query
    cases htype : a.targetType <;> rw [htype] at h <;>
      simp only [TargetType.health?, Option.some.injEq, Prod.mk.injEq, reduceCtorEq] at h <;>
      obtain ⟨rfl, rfl, rfl⟩ := h <;> rfl
  refine ⟨hquery, ?_⟩
  rw [hquery]
  unfold healthQuery targetText
  simp only [String.toList_append, List.append_assoc]

/-- The head of a health query tells the type of its target. -/
theorem TargetType.eq_of_append_eq {s t : TargetType} {m m' : String} {p p' : String × String}
    (hs : s.health? = some (m, p)) (ht : t.health? = some (m', p')) {r r' : List Char}
    (h : m.toList ++ r = m'.toList ++ r') : s = t := by
  -- The names of the metrics differ within their first ten characters.
  have htake := congrArg (List.take 10) h
  cases s <;> cases t <;>
    simp only [health?, Option.some.injEq, Prod.mk.injEq, reduceCtorEq] at hs ht <;>
    first
      | rfl
      | (obtain ⟨rfl, -⟩ := hs
         obtain ⟨rfl, -⟩ := ht
         simp at htake)

/-- A text up to the first quote in it. -/
theorem eq_of_append_quote {u v r s : List Char} (hu : '"' ∉ u) (hv : '"' ∉ v)
    (h : u ++ '"' :: r = v ++ '"' :: s) : u = v := by
  have hupto : ∀ {w t : List Char}, '"' ∉ w → (w ++ '"' :: t).takeWhile (· != '"') = w := by
    intro w t hw
    rw [List.takeWhile_append_of_pos, List.takeWhile_cons_of_neg (by simp), List.append_nil]
    intro c hc
    rw [bne_iff_ne]
    rintro rfl
    exact hw hc
  have htake := congrArg (List.takeWhile (· != '"')) h
  rwa [hupto hu, hupto hv] at htake

namespace Alert

variable {a b : Alert}

/-- Two health queries are the same if they are on the same type of target and the texts of the
alerts in them are the same, and only then. -/
theorem query_eq_iff_targetText {metric metric' label label' healthy healthy' : String}
    (ha : a.targetType.health? = some (metric, label, healthy))
    (hb : b.targetType.health? = some (metric', label', healthy')) :
    a.query = b.query ↔ a.targetType = b.targetType ∧ a.targetText = b.targetText := by
  obtain ⟨-, hqueryA⟩ := query_toList ha
  obtain ⟨-, hqueryB⟩ := query_toList hb
  constructor
  · intro h
    rw [h, hqueryB] at hqueryA
    have htype := TargetType.eq_of_append_eq ha hb hqueryA.symm
    rw [← htype, ha] at hb
    obtain ⟨rfl, hlabels⟩ := Prod.mk.inj (Option.some.inj hb)
    obtain ⟨rfl, rfl⟩ := Prod.mk.inj hlabels
    -- What stands around the two texts is the same.
    have htext := List.append_cancel_left (List.append_cancel_left hqueryA)
    exact ⟨htype, (List.append_cancel_right htext).symm⟩
  · rintro ⟨htype, htext⟩
    rw [← htype, ha] at hb
    obtain ⟨rfl, hlabels⟩ := Prod.mk.inj (Option.some.inj hb)
    obtain ⟨rfl, rfl⟩ := Prod.mk.inj hlabels
    rw [← String.toList_inj, hqueryA, hqueryB, htext]

/-- Where there is no quote in the environments, the text of an alert tells its environment and its
target. -/
theorem targetText_eq_iff (ha : '"' ∉ a.environment.toList) (hb : '"' ∉ b.environment.toList) :
    a.targetText = b.targetText ↔ a.environment = b.environment ∧ a.targetId = b.targetId := by
  unfold targetText
  constructor
  · intro h
    rw [List.append_assoc, List.append_assoc] at h
    have henvironment : a.environment.toList = b.environment.toList := eq_of_append_quote ha hb h
    rw [henvironment] at h
    have htarget := List.append_cancel_left (List.append_cancel_left h)
    exact ⟨String.toList_inj.1 henvironment, String.toList_inj.1 htarget⟩
  · rintro ⟨henvironment, htarget⟩
    rw [henvironment, htarget]

/-- A health query in whose texts every character stands for itself is read as its metric and three
matchers, which ask for the environment, the target and the state. -/
theorem read?_healthQuery (escapes : Selector.Escapes) {metric label healthy : String}
    (h : a.targetType.health? = some (metric, label, healthy))
    (henvironment : ∀ c ∈ a.environment.toList, Selector.isPlain c = true)
    (htarget : ∀ c ∈ a.targetId.toList, Selector.isPlain c = true) :
    Selector.read? escapes a.query = some (metric,
      [("environment_id", a.environment), ("id", a.targetId), (label, healthy)], " != 1") := by
  have hnames : (∀ c ∈ metric.toList, Selector.isNameChar c = true) ∧
      (∀ c ∈ label.toList, Selector.isNameChar c = true) ∧ label.toList ≠ [] ∧
      ∀ c ∈ healthy.toList, Selector.isPlain c = true := by
    cases htype : a.targetType <;> rw [htype] at h <;>
      simp only [TargetType.health?, Option.some.injEq, Prod.mk.injEq, reduceCtorEq] at h <;>
      obtain ⟨rfl, rfl, rfl⟩ := h <;>
      exact ⟨List.all_eq_true.1 (by decide), List.all_eq_true.1 (by decide), by decide,
        List.all_eq_true.1 (by decide)⟩
  obtain ⟨hmetric, hlabel, hne, hhealthy⟩ := hnames
  obtain ⟨-, hquery⟩ := query_toList h
  -- The query as the reader finds it: each matcher behind the one before.
  have hchars : a.query.toList = metric.toList ++ '\x7b' ::
      ("environment_id".toList ++ '=' :: '"' :: (a.environment.toList ++ '"' :: ',' :: ' ' ::
        ("id".toList ++ '=' :: '"' :: (a.targetId.toList ++ '"' :: ',' :: ' ' ::
          (label.toList ++ '=' :: '"' ::
            (healthy.toList ++ '"' :: '\x7d' :: " != 1".toList)))))) := by
    rw [hquery]
    unfold targetText
    simp
  rw [Selector.read?_of_toList hmetric hchars]
  generalize hlength : List.length _ = n
  obtain ⟨fuel, rfl⟩ : ∃ fuel, n = fuel + 3 := by
    refine ⟨n - 3, ?_⟩
    simp at hlength
    omega
  rw [Selector.matchers?_comma (List.all_eq_true.1 (by decide)) (by decide)
      (Selector.value?_append henvironment _),
    Selector.matchers?_blank,
    Selector.matchers?_comma (List.all_eq_true.1 (by decide)) (by decide)
      (Selector.value?_append htarget _),
    Selector.matchers?_blank,
    Selector.matchers?_brace hlabel hne (Selector.value?_append hhealthy _)]
  simp only [Option.map_some, String.ofList_toList]

/-- Two health queries are the same exactly if they are on the same type of target and the texts of
the alerts in them are the same; where no environment holds a quote, exactly if the types, the
environments and the targets are. If no text holds a quote, a backslash or a line break, a query is
read as the three matchers that are meant, and no other. -/
theorem query_eq_iff (a b : Alert) (ha : a.targetType ≠ .metric) (hb : b.targetType ≠ .metric) :
    (a.query = b.query ↔ a.targetType = b.targetType ∧ a.targetText = b.targetText) ∧
    ('"' ∉ a.environment.toList → '"' ∉ b.environment.toList →
      (a.query = b.query ↔ a.targetType = b.targetType ∧ a.environment = b.environment ∧
        a.targetId = b.targetId)) ∧
    ((∀ c ∈ a.environment.toList, Selector.isPlain c = true) →
      (∀ c ∈ a.targetId.toList, Selector.isPlain c = true) →
      ∃ metric label healthy, a.targetType.health? = some (metric, label, healthy) ∧
        ∀ escapes, Selector.read? escapes a.query = some (metric,
          [("environment_id", a.environment), ("id", a.targetId), (label, healthy)], " != 1")) := by
  have hhealth : ∀ {t : TargetType}, t ≠ .metric → ∃ metric label healthy,
      t.health? = some (metric, label, healthy) := by
    intro t ht
    cases t with
    | host | stack | service => exact ⟨_, _, _, rfl⟩
    | metric => exact absurd rfl ht
  obtain ⟨metric, label, healthy, hhealthA⟩ := hhealth ha
  obtain ⟨metric', label', healthy', hhealthB⟩ := hhealth hb
  refine ⟨query_eq_iff_targetText hhealthA hhealthB, ?_, ?_⟩
  · intro hquoteA hquoteB
    rw [query_eq_iff_targetText hhealthA hhealthB, targetText_eq_iff hquoteA hquoteB]
  · intro henvironment htarget
    exact ⟨metric, label, healthy, hhealthA,
      fun escapes => read?_healthQuery escapes hhealthA henvironment htarget⟩

/-- An alert on a service of an environment. -/
def onService (environment target : String) : Alert :=
  { Alert.sample "a1" environment "r1" .enabled with targetType := .service, targetId := target }

/-- Two services with texts that hold no quotes are told apart, and asked for by name. -/
theorem query_eq_iff_services :
    (onService "e1" "s1").query ≠ (onService "e1, id" "s1").query ∧
      ∀ escapes, Selector.read? escapes (onService "e1" "s1").query =
        some ("rancher_service_health_status",
          [("environment_id", "e1"), ("id", "s1"), ("health_state", "healthy")], " != 1") := by
  obtain ⟨-, hsame, hread⟩ :=
    query_eq_iff (onService "e1" "s1") (onService "e1, id" "s1") (by decide) (by decide)
  constructor
  · intro h
    have henvironment := ((hsame (by decide) (by decide)).1 h).2.1
    exact absurd henvironment (by decide)
  · obtain ⟨metric, label, healthy, hhealth, hmatchers⟩ :=
      hread (List.all_eq_true.1 (by decide)) (List.all_eq_true.1 (by decide))
    obtain ⟨rfl, hlabels⟩ := Prod.mk.inj (Option.some.inj hhealth)
    obtain ⟨rfl, rfl⟩ := Prod.mk.inj hlabels
    exact hmatchers

/-- Two alerts that are accepted may have the same query although they are on targets of different
environments: with a quote in its environment, the first ends that early and goes on as the second
does. -/
theorem not_query_injective : ¬ ∀ a b : Alert, a.validate = .ok () → b.validate = .ok () →
    a.targetType ≠ .metric → b.targetType ≠ .metric → a.query = b.query →
    a.targetType = b.targetType ∧ a.environment = b.environment ∧ a.targetId = b.targetId := by
  intro h
  have hsame := h (onService "e1\", id=\"s1" "s2") (onService "e1" "s1\", id=\"s2") rfl rfl
    (by decide) (by decide) (by decide)
  exact absurd hsame.2.1 (by decide)

end Alert

end AlertSync
