import AlertSync.Proofs.Contents
import AlertSync.Synchronizer

/-!
# What generated files show of the contents

Each topic wakes the synchronizer of one file. What that file should hold is the `rendering` of what
is stored. It shows the contents only in part, the `View` of the topic: of an alert not what was
observed of it, save that disabled alerts are left out; and the rules show neither recipients nor
notification settings. Contents with the same view have the same rendering, and that is the text
of the view (`rendering_objects`).
-/

namespace AlertSync

/-- The notification settings among what is stored, if there are some. -/
def Objects.settings (o : Objects) : Except Error (Option AlertConfig) :=
  match o.get? .alertConfig Registry.settingsId with
  | some object => (AlertConfig.ofPayload object.payload).map some
  | none => .ok none

namespace Topic

/-- The synchronizer that a topic wakes. -/
def synchronizer : Topic → Synchronizer
  | alertChanged => .route
  | metricsChanged => .rule

/-- The file that is generated whenever a topic is notified. -/
def file (s : SyncSettings) : Topic → FilePath
  | alertChanged => s.routeFile
  | metricsChanged => s.ruleFile

/-- What the file of a topic should hold, given what is stored. -/
def rendering (o : Objects) : Topic → Except Error String
  | alertChanged => do
    let settings ← o.settings
    let alerts ← (o.list .alert).mapM fun object => Alert.ofPayload object.payload
    let recipients ← (o.list .recipient).mapM fun object => Recipient.ofPayload object.payload
    return Yaml.text (Yaml.ofTree (RoutingConfig.build settings alerts recipients).tree)
  | metricsChanged => do
    let alerts ← (o.list .alert).mapM fun object => Alert.ofPayload object.payload
    return Yaml.text (Yaml.ofTree (RuleGroups.ofAlerts alerts).tree)

end Topic

/-- An alert without what was observed of it. -/
def Alert.unobserved (a : Alert) : Alert :=
  { a with
    state := if a.isDisabled then .disabled else .enabled
    startsAt := none
    endsAt := none }

/-- Whether an alert is disabled is not observed. -/
theorem Alert.isDisabled_unobserved (a : Alert) : a.unobserved.isDisabled = a.isDisabled := by
  show ((if a.isDisabled then AlertState.disabled else .enabled) == .disabled) = a.isDisabled
  cases a.isDisabled <;> rfl

/-- Nothing but what was observed of an alert is new if it is as disabled as before. -/
theorem Alert.unobserved_observed {a : Alert} {state : AlertState}
    (h : (state == .disabled) = a.isDisabled) (startsAt endsAt : Option Timestamp) :
    { a with state := state, startsAt := startsAt, endsAt := endsAt : Alert }.unobserved =
      a.unobserved := by
  unfold unobserved
  congr 1
  show (if (state == .disabled) = true then AlertState.disabled else .enabled) = _
  rw [h]

/-- Alerts are left out alike with and without what was observed of them. -/
theorem filter_unobserved (l : List Alert) :
    (l.map Alert.unobserved).filter (fun a => !a.isDisabled) =
      (l.filter fun a => !a.isDisabled).map Alert.unobserved := by
  rw [List.filter_map]
  congr 1
  apply List.filter_congr
  intro a _
  rw [Function.comp_apply, Alert.isDisabled_unobserved]

/-- The routing tree does not show what was observed of alerts. -/
theorem RoutingConfig.build_unobserved (settings : Option AlertConfig) (alerts : List Alert)
    (recipients : List Recipient) :
    build settings (alerts.map Alert.unobserved) recipients = build settings alerts recipients := by
  -- A leaf has nothing of its alert that is observed.
  have hleaves (l : List Alert) :
      leavesByEnvironment (l.map Alert.unobserved) = leavesByEnvironment l := by
    unfold leavesByEnvironment
    rw [List.foldl_map]
    rfl
  unfold build
  rw [filter_unobserved, hleaves]

/-- The rules do not show what was observed of alerts. -/
theorem RuleGroups.ofAlerts_unobserved (alerts : List Alert) :
    ofAlerts (alerts.map Alert.unobserved) = ofAlerts alerts := by
  have hrules (l : List Alert) :
      (l.map Alert.unobserved).map Rule.ofAlert = l.map Rule.ofAlert := by
    rw [List.map_map]
    rfl
  unfold ofAlerts
  rw [filter_unobserved, hrules]

/-! ## Views -/

/-- What a generated file shows of the contents. -/
structure View where
  settings : Option AlertConfig
  /-- The alerts without what was observed of them. -/
  alerts : SortedMap Alert
  recipients : SortedMap Recipient

/-- The text of a view. -/
def View.text (v : View) : Topic → String
  | .alertChanged => Yaml.text (Yaml.ofTree (RoutingConfig.build v.settings
      (v.alerts.entries.map (·.2)) (v.recipients.entries.map (·.2))).tree)
  | .metricsChanged => Yaml.text (Yaml.ofTree (RuleGroups.ofAlerts
      (v.alerts.entries.map (·.2))).tree)

namespace Contents

/-- What the file of a topic shows of the contents. -/
def view (k : Contents) : Topic → View
  | .alertChanged => ⟨k.settings, k.alerts.map Alert.unobserved, k.recipients⟩
  | .metricsChanged => ⟨none, k.alerts.map Alert.unobserved, .empty⟩

variable {k k' : Contents} {topic : Topic}

/-- All files show the alerts. -/
theorem alerts_view (k : Contents) (topic : Topic) :
    (k.view topic).alerts = k.alerts.map Alert.unobserved := by cases topic <;> rfl

/-- The alerts of a view are the listed ones. -/
theorem entries_view (k : Contents) (topic : Topic) :
    (k.view topic).alerts.entries.map (·.2) = k.alertList.map Alert.unobserved := by
  rw [alerts_view]
  show (k.alerts.entries.map _).map _ = (k.alerts.entries.map _).map _
  rw [List.map_map, List.map_map]
  rfl

/-- The text of a view of the routing tree, whichever contents with this view its parts are read
from. -/
theorem text_alertChanged {v : View} {k₁ k₂ k₃ : Contents} (h₁ : k₁.view .alertChanged = v)
    (h₂ : k₂.view .alertChanged = v) (h₃ : k₃.view .alertChanged = v) :
    v.text .alertChanged = Yaml.text (Yaml.ofTree
      (RoutingConfig.build k₁.settings k₂.alertList k₃.recipientList).tree) := by
  have hsettings : v.settings = k₁.settings := congrArg View.settings h₁.symm
  have halerts : v.alerts.entries.map (·.2) = k₂.alertList.map Alert.unobserved := by
    rw [← h₂, entries_view]
  have hrecipients : v.recipients = k₃.recipients := congrArg View.recipients h₃.symm
  rw [View.text, hsettings, halerts, hrecipients, RoutingConfig.build_unobserved]
  rfl

/-- The text of a view of the rules. -/
theorem text_metricsChanged {v : View} (h : k.view .metricsChanged = v) :
    v.text .metricsChanged = Yaml.text (Yaml.ofTree (RuleGroups.ofAlerts k.alertList).tree) := by
  rw [View.text, ← h, entries_view, RuleGroups.ofAlerts_unobserved]

/-- The stored notification settings are those of the contents. -/
theorem settings_objects (k : Contents) : k.objects.settings = .ok k.settings := by
  unfold Objects.settings
  rw [get?_settings]
  cases k.settings with
  | none => rfl
  | some c =>
    show (AlertConfig.ofPayload c.payload).map some = _
    rw [AlertConfig.ofPayload_payload]
    rfl

/-- What a file should hold is the text of the view. -/
theorem rendering_objects (k : Contents) (topic : Topic) :
    topic.rendering k.objects = .ok ((k.view topic).text topic) := by
  have halerts : (k.objects.list .alert).mapM (fun o => Alert.ofPayload o.payload) =
      .ok k.alertList := Shelf.alerts.mapM_list k
  cases topic with
  | alertChanged =>
    have hrecipients : (k.objects.list .recipient).mapM (fun o => Recipient.ofPayload o.payload) =
        .ok k.recipientList := Shelf.recipients.mapM_list k
    have htext := text_alertChanged (v := k.view .alertChanged) rfl rfl rfl
    rw [Topic.rendering, settings_objects, halerts, hrecipients, htext]
    rfl
  | metricsChanged =>
    rw [Topic.rendering, halerts, text_metricsChanged (k := k) rfl]
    rfl

/-- An alert that is put in place of one without showing anything new leaves the view as it is. -/
theorem view_put_alert {a b : Alert} (hfound : k.alerts.find? b.id = some a)
    (hsame : b.unobserved = a.unobserved) (topic : Topic) :
    (k.put (.alert b)).view topic = k.view topic := by
  -- All views show the alerts alike, and everything else is as before.
  have halerts : (k.alerts.insert b.id b).map Alert.unobserved = k.alerts.map Alert.unobserved := by
    apply SortedMap.ext_find?
    intro x
    rw [SortedMap.find?_map, SortedMap.find?_insert, SortedMap.find?_map]
    split
    · next hx =>
      rw [hx, hfound, Option.map_some, Option.map_some, hsame]
    · rfl
  cases topic with
  | alertChanged => exact congrArg (View.mk k.settings · k.recipients) halerts
  | metricsChanged => exact congrArg (View.mk none · .empty) halerts

end Contents

end AlertSync
