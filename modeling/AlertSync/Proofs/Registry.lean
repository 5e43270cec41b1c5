import AlertSync.Proofs.Contents

/-!
# The registry on the contents of the store

What the registry finds in a store that holds `Contents`, whatever else is the case. Each reading
operation fails or finds the object or the objects that are meant, and changes nothing
(`always_alert`, `always_alerts` and the like): to show that it always ends as a condition says, it
is enough to show the condition of these ends. What is said of alerts and recipients is said of a
`Shelf` first. What is listed or looked up by itself may as well be found in one of several contents
(`Reading`).
-/

namespace AlertSync

open Program (Always)

/-- Whether reading in a state changes nothing, and fails or finds what some contents hold. There
may be several: the store may be changed by others in between. -/
structure Reading {σ : Type} (R : Answering σ) (s : σ) (K : Contents → Prop) : Prop where
  get : ∀ {kind id x t}, R (.get kind id) s x t →
    t = s ∧ ((∃ e, x = .error e) ∨ ∃ k, K k ∧ x = .ok (k.objects.get? kind id))
  list : ∀ {kind x t}, R (.list kind) s x t →
    t = s ∧ ((∃ e, x = .error e) ∨ ∃ k, K k ∧ x = .ok (k.objects.list kind))

namespace Shelf

variable {α : Type}

/-- The value that is read under an id. -/
def lookup (f : Shelf α) (id : String) : Operation α := do
  .ofExcept (f.decode (← Registry.payload f.kind id))

/-- All values that are read. -/
def listing (f : Shelf α) : Operation (List α) := do
  let all ← .ofExcept ((← Registry.objects f.kind).mapM fun o => f.decode o.payload)
  return all.filter fun _ => true

/-- Alerts are looked up on their shelf. -/
theorem lookup_alerts (id : String) : alerts.lookup id = Registry.alert id := rfl

/-- Recipients are looked up on their shelf. -/
theorem lookup_recipients (id : String) : recipients.lookup id = Registry.recipient id := rfl

/-- Alerts are listed from their shelf. -/
theorem listing_alerts : alerts.listing = Registry.alerts none := rfl

/-- Recipients are listed from their shelf. -/
theorem listing_recipients : recipients.listing = Registry.recipients none := rfl

end Shelf

namespace Reading

variable {σ : Type} {R : Answering σ} {s : σ} {K : Contents → Prop}

/-- Listing a shelf fails or finds the values of some contents. -/
theorem always_listing {α : Type} (h : Reading R s K) (f : Shelf α)
    {post : Except Error (List α) → σ → Prop} (hfail : ∀ e, post (.error e) s)
    (hok : ∀ k, K k → post (.ok ((f.values k).entries.map (·.2))) s) :
    Always R post f.listing.outcome s := by
  intro x t hx
  obtain ⟨rfl, ⟨e, rfl⟩ | ⟨k, hk, rfl⟩⟩ := h.list hx
  · exact hfail e
  · show Always _ post (Operation.ofExcept _ >>= _).outcome _
    rw [f.mapM_list]
    show post (.ok (((f.values k).entries.map (·.2)).filter fun _ => true)) _
    rw [List.filter_true]
    exact hok k hk

/-- Listing all alerts fails or finds those of some contents. -/
theorem always_alerts (h : Reading R s K) {post : Except Error (List Alert) → σ → Prop}
    (hfail : ∀ e, post (.error e) s) (hok : ∀ k, K k → post (.ok k.alertList) s) :
    Always R post (Registry.alerts none).outcome s := by
  rw [← Shelf.listing_alerts]
  exact h.always_listing .alerts hfail hok

/-- Listing all recipients fails or finds those of some contents. -/
theorem always_recipients (h : Reading R s K) {post : Except Error (List Recipient) → σ → Prop}
    (hfail : ∀ e, post (.error e) s) (hok : ∀ k, K k → post (.ok k.recipientList) s) :
    Always R post (Registry.recipients none).outcome s := by
  rw [← Shelf.listing_recipients]
  exact h.always_listing .recipients hfail hok

/-- Looking up the notification settings fails or finds those of some contents. -/
theorem always_alertConfig (h : Reading R s K)
    {post : Except Error (Option AlertConfig) → σ → Prop} (hfail : ∀ e, post (.error e) s)
    (hok : ∀ k, K k → post (.ok k.settings) s) :
    Always R post Registry.alertConfig.outcome s := by
  intro x t hx
  obtain ⟨rfl, ⟨e, rfl⟩ | ⟨k, hk, rfl⟩⟩ := h.get hx
  · exact hfail e
  · have hsettings := hok k hk
    rw [Contents.get?_settings]
    cases hc : k.settings with
    | none =>
      rw [hc] at hsettings
      exact hsettings
    | some c =>
      rw [hc] at hsettings
      show post ((AlertConfig.ofPayload c.payload).map some) _
      rw [AlertConfig.ofPayload_payload]
      exact hsettings

end Reading

namespace Site

variable {P : Promise} {s : Site}

/-- At a site of contents these are what is found. -/
theorem reading (k : Contents) (w : Finset (String × String)) :
    Reading (answering P) (k.site w) (· = k) where
  get := by
    rintro kind id x t ⟨-, rfl, rfl | ⟨e, rfl⟩⟩
    · exact ⟨rfl, .inr ⟨k, rfl, rfl⟩⟩
    · exact ⟨rfl, .inl ⟨e, rfl⟩⟩
  list := by
    rintro kind x t ⟨-, rfl, rfl | ⟨e, rfl⟩⟩
    · exact ⟨rfl, .inr ⟨k, rfl, rfl⟩⟩
    · exact ⟨rfl, .inl ⟨e, rfl⟩⟩

/-- Looking up an object fails or tells what is stored. -/
theorem always_get {kind : Kind} {id : String}
    {post : Except Error (Option StoredObject) → Site → Prop} (hfail : ∀ e, post (.error e) s)
    (hok : post (.ok (s.objects.get? kind id)) s) :
    Always (answering P) post (.ask (.get kind id)) s := by
  rintro x t ⟨-, rfl, rfl | ⟨e, rfl⟩⟩
  · exact hok
  · exact hfail e

/-- A new id is one that is promised. -/
theorem always_freshId {post : Except Error String → Site → Prop}
    (hok : ∀ id, P .freshId s id → post (.ok id) s) :
    Always (answering P) post (Operation.freshId).outcome s := by
  rintro id t ⟨hid, rfl⟩
  exact hok id hid

end Site

namespace Registry

variable {P : Promise} {k : Contents} {w : Finset (String × String)}

/-- Looking up a value fails or finds the one that is stored under the id. -/
theorem always_lookup {α : Type} (f : Shelf α) {id : String} {post : Except Error α → Site → Prop}
    (hfail : ∀ e, post (.error e) (k.site w))
    (hok : ∀ a, (f.values k).find? id = some a → post (.ok a) (k.site w)) :
    Always (Site.answering P) post (f.lookup id).outcome (k.site w) := by
  unfold Shelf.lookup payload
  rw [Operation.always_bind, Operation.always_bind]
  apply Site.always_get
  · exact hfail
  · rw [Contents.objects_site, f.get?_objects]
    cases h : (f.values k).find? id with
    | none => exact hfail _
    | some a =>
      show post (f.decode (f.encode a)) (k.site w)
      rw [f.decode_encode]
      exact hok a h

/-- Looking up an alert fails or finds the one that is stored under the id. -/
theorem always_alert {id : String} {post : Except Error Alert → Site → Prop}
    (hfail : ∀ e, post (.error e) (k.site w))
    (hok : ∀ a, k.alerts.find? id = some a → post (.ok a) (k.site w)) :
    Always (Site.answering P) post (alert id).outcome (k.site w) := by
  rw [← Shelf.lookup_alerts]
  exact always_lookup .alerts hfail hok

/-- Looking up a recipient fails or finds the one that is stored under the id. -/
theorem always_recipient {id : String} {post : Except Error Recipient → Site → Prop}
    (hfail : ∀ e, post (.error e) (k.site w))
    (hok : ∀ r, k.recipients.find? id = some r → post (.ok r) (k.site w)) :
    Always (Site.answering P) post (recipient id).outcome (k.site w) := by
  rw [← Shelf.lookup_recipients]
  exact always_lookup .recipients hfail hok

/-- Listing all alerts fails or finds them all. -/
theorem always_alerts {post : Except Error (List Alert) → Site → Prop}
    (hfail : ∀ e, post (.error e) (k.site w)) (hok : post (.ok k.alertList) (k.site w)) :
    Always (Site.answering P) post (alerts none).outcome (k.site w) := by
  apply (Site.reading k w).always_alerts hfail
  rintro _ rfl
  exact hok

/-- Listing all recipients fails or finds them all. -/
theorem always_recipients {post : Except Error (List Recipient) → Site → Prop}
    (hfail : ∀ e, post (.error e) (k.site w)) (hok : post (.ok k.recipientList) (k.site w)) :
    Always (Site.answering P) post (recipients none).outcome (k.site w) := by
  apply (Site.reading k w).always_recipients hfail
  rintro _ rfl
  exact hok

/-- Looking up the notification settings fails or finds them, if there are some. -/
theorem always_alertConfig {post : Except Error (Option AlertConfig) → Site → Prop}
    (hfail : ∀ e, post (.error e) (k.site w)) (hok : post (.ok k.settings) (k.site w)) :
    Always (Site.answering P) post alertConfig.outcome (k.site w) := by
  apply (Site.reading k w).always_alertConfig hfail
  rintro _ rfl
  exact hok

/-- Notification settings always come to an id. -/
theorem always_settingsOwnId {c : AlertConfig} {former : Option AlertConfig} {s : Site}
    {post : Except Error String → Site → Prop} (hok : ∀ id, post (.ok id) s) :
    Always (Site.answering P) post (settingsOwnId c former).outcome s := by
  unfold settingsOwnId
  cases former with
  | some f => exact hok _
  | none =>
    show Always _ post (if _ then _ else _ : Operation String).outcome s
    split
    · apply Site.always_freshId
      intro id _
      exact hok id
    · exact hok c.id

end Registry

end AlertSync
