import AlertSync.Proofs.Payload
import AlertSync.Proofs.Program.Site
import AlertSync.Proofs.SortedMap
import AlertSync.Registry

/-!
# The contents of the store

The store holds payloads. As long as only the registry writes to it, these are the payloads of
alerts and recipients under their own ids and of at most one object of notification settings: the
store holds `Contents`. Alerts and recipients lie on a `Shelf` each, and are found and listed there
alike. Whoever puts an object into the contents or takes one out changes one payload of the store
(`objects_put`, `objects_eraseAlert`, `objects_eraseRecipient`).
-/

namespace AlertSync

/-- The key under which an object is stored. -/
def Resource.key : Resource → String
  | alert a => a.id
  | recipient r => r.id
  | alertConfig _ => Registry.settingsId

/-- What the store holds: alerts and recipients under their ids, and the notification settings. -/
@[ext]
structure Contents where
  alerts : SortedMap Alert
  recipients : SortedMap Recipient
  settings : Option AlertConfig
  /-- Every alert is stored under its id. -/
  id_of_alert : ∀ {id a}, alerts.find? id = some a → a.id = id
  /-- Every recipient is stored under its id. -/
  id_of_recipient : ∀ {id r}, recipients.find? id = some r → r.id = id

/-- The alert that is read under an id, if there is one. -/
def Site.alert? (s : Site) (id : String) : Option Alert :=
  (s.objects.alerts.find? id).bind fun payload => (Alert.ofPayload payload).toOption

/-- An alert is read under an id if its payload is stored there. -/
theorem Site.alert?_eq_some_iff {s : Site} {id : String} {a : Alert} : s.alert? id = some a ↔
    ∃ payload, s.objects.alerts.find? id = some payload ∧ Alert.ofPayload payload = .ok a := by
  have hread (payload : String) : (Alert.ofPayload payload).toOption = some a ↔
      Alert.ofPayload payload = .ok a := by
    cases Alert.ofPayload payload with
    | error e => exact iff_of_false nofun nofun
    | ok b => exact Option.some_inj.trans ⟨congrArg Except.ok, Except.ok.inj⟩
  rw [alert?, Option.bind_eq_some_iff]
  simp only [hread]

namespace Contents

/-- No contents. -/
def empty : Contents where
  alerts := .empty
  recipients := .empty
  settings := none
  id_of_alert := nofun
  id_of_recipient := nofun

/-- The payloads of the notification settings, of which there are none or one. -/
def settingsShelf : Option AlertConfig → SortedMap String
  | none => .empty
  | some c => SortedMap.empty.insert Registry.settingsId c.payload

/-- The objects that stand for the contents. -/
def objects (k : Contents) : Objects where
  alerts := k.alerts.map Alert.payload
  recipients := k.recipients.map Recipient.payload
  alertConfigs := settingsShelf k.settings

/-- The contents at a site with silences. -/
def site (k : Contents) (w : Finset (String × String)) : Site := ⟨k.objects, w⟩

/-- The objects at the site of the contents. -/
theorem objects_site (k : Contents) (w : Finset (String × String)) :
    (k.site w).objects = k.objects := rfl

/-- The alerts in the order of their ids. -/
def alertList (k : Contents) : List Alert := k.alerts.entries.map (·.2)

/-- The recipients in the order of their ids. -/
def recipientList (k : Contents) : List Recipient := k.recipients.entries.map (·.2)

/-- An alert of the list is stored under its id. -/
theorem mem_alertList {k : Contents} {a : Alert} :
    a ∈ k.alertList ↔ k.alerts.find? a.id = some a := SortedMap.mem_values_iff k.id_of_alert

/-- A recipient of the list is stored under its id. -/
theorem mem_recipientList {k : Contents} {r : Recipient} :
    r ∈ k.recipientList ↔ k.recipients.find? r.id = some r :=
  SortedMap.mem_values_iff k.id_of_recipient

/-- The ids of the alerts in the list are all different. -/
theorem nodup_alertList (k : Contents) : (k.alertList.map (·.id)).Nodup :=
  SortedMap.nodup_names k.id_of_alert

/-- The ids of the recipients in the list are all different. -/
theorem nodup_recipientList (k : Contents) : (k.recipientList.map (·.id)).Nodup :=
  SortedMap.nodup_names k.id_of_recipient

end Contents

/-! ## What the store finds -/

/-- A kind of objects of which there are many: how they are written and read, and where they are
among the contents. -/
structure Shelf (α : Type) where
  kind : Kind
  encode : α → String
  decode : String → Except Error α
  values : Contents → SortedMap α
  /-- Every payload is read as what it was written for. -/
  decode_encode : ∀ a, decode (encode a) = .ok a
  /-- The store has the payloads of the values under their ids. -/
  shelf_objects : ∀ k, k.objects.shelf kind = (values k).map encode

namespace Shelf

variable {α : Type}

/-- The alerts. -/
def alerts : Shelf Alert where
  kind := .alert
  encode := Alert.payload
  decode := Alert.ofPayload
  values := Contents.alerts
  decode_encode := Alert.ofPayload_payload
  shelf_objects _ := rfl

/-- The recipients. -/
def recipients : Shelf Recipient where
  kind := .recipient
  encode := Recipient.payload
  decode := Recipient.ofPayload
  values := Contents.recipients
  decode_encode := Recipient.ofPayload_payload
  shelf_objects _ := rfl

/-- The store finds the payload of a value under its id. -/
theorem get?_objects (s : Shelf α) (k : Contents) (id : String) :
    k.objects.get? s.kind id = ((s.values k).find? id).map fun a => ⟨s.kind, id, s.encode a⟩ := by
  unfold Objects.get?
  rw [s.shelf_objects, SortedMap.find?_map, Option.map_map]
  rfl

/-- The listed payloads are read as the values. -/
theorem mapM_list (s : Shelf α) (k : Contents) :
    (k.objects.list s.kind).mapM (fun o => s.decode o.payload) =
      .ok ((s.values k).entries.map (·.2)) := by
  have hlist : k.objects.list s.kind =
      (s.values k).entries.map fun e => ⟨s.kind, e.1, s.encode e.2⟩ := by
    unfold Objects.list
    rw [s.shelf_objects]
    exact List.map_map
  have hread : ((fun o : StoredObject => s.decode o.payload) ∘
      fun e : String × α => ⟨s.kind, e.1, s.encode e.2⟩) = fun e => pure e.2 := by
    funext e
    exact s.decode_encode e.2
  rw [hlist, List.mapM_map, hread]
  exact List.mapM_pure

end Shelf

namespace Contents

/-- The store finds the payload of the notification settings under their key. -/
theorem get?_settings (k : Contents) : k.objects.get? .alertConfig Registry.settingsId =
    k.settings.map fun c => ⟨.alertConfig, Registry.settingsId, c.payload⟩ := by
  show ((settingsShelf k.settings).find? _).map _ = _
  cases k.settings with
  | none => rfl
  | some c =>
    show ((SortedMap.empty.insert _ _).find? _).map _ = _
    rw [SortedMap.find?_insert, if_pos rfl]
    rfl

/-- At a site of contents the alerts are those of the contents. -/
theorem alert?_site (k : Contents) (w : Finset (String × String)) (id : String) :
    (k.site w).alert? id = k.alerts.find? id := by
  show ((k.alerts.map Alert.payload).find? id).bind _ = _
  rw [SortedMap.find?_map]
  cases k.alerts.find? id with
  | none => rfl
  | some a =>
    rw [Option.map_some, Option.bind_some, Alert.ofPayload_payload]
    rfl

/-! ## Changing an object -/

/-- The contents with an object in place of what was stored under its key. -/
def put (k : Contents) : Resource → Contents
  | .alert a =>
    { k with
      alerts := k.alerts.insert a.id a
      id_of_alert := SortedMap.name_of_find?_insert k.id_of_alert }
  | .recipient r =>
    { k with
      recipients := k.recipients.insert r.id r
      id_of_recipient := SortedMap.name_of_find?_insert k.id_of_recipient }
  | .alertConfig c => { k with settings := some c }

/-- The contents without the alert under an id. -/
def eraseAlert (k : Contents) (id : String) : Contents where
  alerts := k.alerts.erase id
  recipients := k.recipients
  settings := k.settings
  id_of_alert := SortedMap.name_of_find?_erase k.id_of_alert
  id_of_recipient := k.id_of_recipient

/-- The contents without the recipient under an id. -/
def eraseRecipient (k : Contents) (id : String) : Contents where
  alerts := k.alerts
  recipients := k.recipients.erase id
  settings := k.settings
  id_of_alert := k.id_of_alert
  id_of_recipient := SortedMap.name_of_find?_erase k.id_of_recipient

/-- Notification settings take the only place that there is for them. -/
theorem insert_settingsShelf (former : Option AlertConfig) (c : AlertConfig) :
    (settingsShelf former).insert Registry.settingsId c.payload = settingsShelf (some c) := by
  cases former with
  | none => rfl
  | some f => exact SortedMap.insert_insert _ _ _ _

/-- Putting an object into the contents stores its payload under its key. -/
theorem objects_put (k : Contents) (x : Resource) :
    (k.put x).objects = k.objects.modify x.kind fun m => m.insert x.key x.encode := by
  cases x with
  | alert a =>
    show Objects.mk ((k.alerts.insert a.id a).map _) _ _ = _
    rw [SortedMap.map_insert]
    rfl
  | recipient r =>
    show Objects.mk _ ((k.recipients.insert r.id r).map _) _ = _
    rw [SortedMap.map_insert]
    rfl
  | alertConfig c =>
    show Objects.mk _ _ (settingsShelf (some c)) = _
    rw [← insert_settingsShelf k.settings c]
    rfl

/-- Erasing an alert from the contents deletes its payload. -/
theorem objects_eraseAlert (k : Contents) (id : String) :
    (k.eraseAlert id).objects = k.objects.modify .alert fun m => m.erase id := by
  show Objects.mk ((k.alerts.erase id).map _) _ _ = _
  rw [SortedMap.map_erase]
  rfl

/-- Erasing a recipient from the contents deletes its payload. -/
theorem objects_eraseRecipient (k : Contents) (id : String) :
    (k.eraseRecipient id).objects = k.objects.modify .recipient fun m => m.erase id := by
  show Objects.mk _ ((k.recipients.erase id).map _) _ = _
  rw [SortedMap.map_erase]
  rfl

end Contents

end AlertSync
