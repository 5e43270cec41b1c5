import AlertSync.Proofs.Payload.RoundTrip
import AlertSync.Proofs.Success

/-!
# The store stays well formed

Whatever requests and ticks come, and however they fail, every object in the store can be read, lies
under the key that it should, and would pass the check that it had to pass when it came in
(`Objects.WellFormed`). So whatever is looked up or listed there is found, in the order of the ids
(`wellFormed_of_reached`).

That the store holds `Contents` at all is known from `reached_induction`. What is added here is that
they are valid: only what users send is checked, so every other way in which an object is written
must keep it valid, be it an action on an alert, an observation, or an id that is given out
(`Contents.Valid.edit`, `Contents.Valid.settling`).
-/

namespace AlertSync

open Program (Always)

/-- Whether the resolve timeout is left open or is a duration. -/
def AlertConfig.IsValid (c : AlertConfig) : Prop :=
  c.resolveTimeout = "" ∨ ∃ d, Duration.parse c.resolveTimeout = .ok d

/-- Whether an object passes the check of its kind. -/
def Resource.IsValid : Resource → Prop
  | alert a => a.validate = .ok ()
  | recipient r => r.validate = .ok ()
  | alertConfig c => c.IsValid

/-- Whether every stored object is one of its kind that is valid and lies under its key, and there
are notification settings at most once. -/
structure Objects.WellFormed (o : Objects) : Prop where
  stored : ∀ kind, ∀ x ∈ o.list kind, ∃ r : Resource, Resource.decode x.kind x.payload = .ok r ∧
    r.kind = kind ∧ r.key = x.id ∧ r.IsValid
  settings : (o.list .alertConfig).length ≤ 1

/-! ## Valid contents -/

namespace Contents

/-- Whether all contents are valid. -/
structure Valid (k : Contents) : Prop where
  alert : ∀ {id a}, k.alerts.find? id = some a → (Resource.alert a).IsValid
  recipient : ∀ {id r}, k.recipients.find? id = some r → (Resource.recipient r).IsValid
  settings : ∀ {c}, k.settings = some c → c.IsValid

variable {k : Contents}

/-- What is valid may be put into valid contents. -/
theorem Valid.put (h : k.Valid) {x : Resource} (hx : x.IsValid) : (k.put x).Valid := by
  cases x with
  | alert a =>
    refine ⟨?_, h.recipient, h.settings⟩
    intro id b hb
    change (k.alerts.insert a.id a).find? id = some b at hb
    rw [SortedMap.find?_insert] at hb
    split at hb
    · obtain rfl := Option.some.inj hb
      exact hx
    · exact h.alert hb
  | recipient r =>
    refine ⟨h.alert, ?_, h.settings⟩
    intro id b hb
    change (k.recipients.insert r.id r).find? id = some b at hb
    rw [SortedMap.find?_insert] at hb
    split at hb
    · obtain rfl := Option.some.inj hb
      exact hx
    · exact h.recipient hb
  | alertConfig c =>
    refine ⟨h.alert, h.recipient, ?_⟩
    intro c' hc
    obtain rfl := Option.some.inj hc
    exact hx

/-- An alert may go. -/
theorem Valid.eraseAlert (h : k.Valid) (id : String) : (k.eraseAlert id).Valid where
  alert := by
    intro x a ha
    change (k.alerts.erase id).find? x = some a at ha
    rw [SortedMap.find?_erase] at ha
    split at ha
    · nomatch ha
    · exact h.alert ha
  recipient := h.recipient
  settings := h.settings

/-- A recipient may go. -/
theorem Valid.eraseRecipient (h : k.Valid) (id : String) : (k.eraseRecipient id).Valid where
  alert := h.alert
  recipient := by
    intro x r hr
    change (k.recipients.erase id).find? x = some r at hr
    rw [SortedMap.find?_erase] at hr
    split at hr
    · nomatch hr
    · exact h.recipient hr
  settings := h.settings

/-- Every change that a request decides on leaves valid contents valid. -/
theorem Valid.edit (h : k.Valid) {P : Promise} {w w' : Finset (String × String)} {q : Request}
    {d : Draft} (hyields : q.Yields P k w d w') : (d.edit.apply k).Valid := by
  cases hyields with
  -- The id, the state and the times of an alert are not checked, nor is the id of a recipient.
  | createAlert hvalid _ _ | updateAlert _ hvalid _ => exact h.put (x := .alert _) hvalid
  | enable hfound _ | disable hfound _ | silence hfound _ | unsilence hfound _ =>
    have hvalid := h.alert hfound
    exact h.put (x := .alert _) hvalid
  | deleteAlert _ _ => exact h.eraseAlert _
  | createRecipient hvalid _ | updateRecipient _ hvalid => exact h.put (x := .recipient _) hvalid
  | deleteRecipient _ _ => exact h.eraseRecipient _
  | @saveAlertConfig c id hvalid =>
    show (Edit.apply k (if _ then _ else _)).Valid
    split
    · exact h.put (x := .alertConfig { c with id := id }) hvalid
    · exact h.put (x := .alertConfig { c with id := id }) hvalid

/-- An alert that is settled stays valid. -/
theorem Valid.settling (h : k.Valid) {P : Promise} {live : List LiveAlert} {k' : Contents}
    {w w' : Finset (String × String)}
    (hstep : Synchronizer.Settling P live (k, w) (k', w')) : k'.Valid := by
  obtain ⟨a, hfound, -, hsettled⟩ := hstep
  cases hsettled with
  | unchanged _ | unwritten _ _ => exact h
  | written _ _ _ =>
    have hvalid := h.alert hfound
    exact h.put (x := .alert _) hvalid

end Contents

/-- The contents are valid at every site that tasks reach. -/
theorem valid_of_reached {P : Promise} {s : Site} (h : Reached P s) :
    ∃ k w, s = Contents.site k w ∧ k.Valid := by
  refine reached_induction ⟨nofun, nofun, nofun⟩ ?_ ?_ h
  · intro k w q d w' hvalid hyields
    exact ⟨hvalid, fun _ => hvalid.edit hyields⟩
  · intro live k w k' w' hvalid hstep
    exact hvalid.settling hstep

/-! ## What is stored, listed and looked up -/

namespace Contents

/-- The store holds well-formed objects if its contents are valid. -/
theorem Valid.wellFormed {k : Contents} (h : k.Valid) : k.objects.WellFormed where
  stored := by
    rintro kind x hx
    obtain ⟨⟨key, payload⟩, hentry, rfl⟩ := List.mem_map.1 hx
    have hfind := SortedMap.mem_entries_iff.1 hentry
    cases kind with
    | alert =>
      change (k.alerts.map Alert.payload).find? key = some payload at hfind
      rw [SortedMap.find?_map, Option.map_eq_some_iff] at hfind
      obtain ⟨a, ha, rfl⟩ := hfind
      exact ⟨.alert a, Resource.decode_encode (.alert a), rfl, k.id_of_alert ha, h.alert ha⟩
    | recipient =>
      change (k.recipients.map Recipient.payload).find? key = some payload at hfind
      rw [SortedMap.find?_map, Option.map_eq_some_iff] at hfind
      obtain ⟨r, hr, rfl⟩ := hfind
      exact ⟨.recipient r, Resource.decode_encode (.recipient r), rfl, k.id_of_recipient hr,
        h.recipient hr⟩
    | alertConfig =>
      cases hc : k.settings with
      | none =>
        change (settingsShelf k.settings).find? key = some payload at hfind
        rw [hc] at hfind
        nomatch hfind
      | some c =>
        change (settingsShelf k.settings).find? key = some payload at hfind
        rw [hc] at hfind
        change (SortedMap.empty.insert _ _).find? key = some payload at hfind
        rw [SortedMap.find?_insert] at hfind
        split at hfind
        · next hkey =>
          obtain rfl := Option.some.inj hfind
          exact ⟨.alertConfig c, Resource.decode_encode (.alertConfig c), rfl, hkey.symm,
            h.settings hc⟩
        · nomatch hfind
  settings := by
    show ((settingsShelf k.settings).entries.map _).length ≤ 1
    cases k.settings with
    | none => exact Nat.zero_le 1
    | some c => exact Nat.le_refl 1

end Contents

/-- The promise that whatever is asked of the store is answered. -/
def Promise.answered : Promise
  | .list _, _, x | .get .., _, x => ∃ found, x = .ok found
  | _, _, _ => True

namespace Operation

variable {α β : Type} {o : Operation α} {f : α → Operation β} {s : Site} {a : α} {b : β}

/-- Whether an operation, if what it asks of the store is answered, can end only with a result, and
does so without having changed anything. -/
def Finds (o : Operation α) (s : Site) (a : α) : Prop :=
  ∀ r t, o.outcome.Runs (Site.answering .answered) s r t ↔ r = .ok a ∧ t = s

/-- What follows an operation that finds something begins with that. -/
theorem Finds.bind (ho : o.Finds s a) (hf : (f a).Finds s b) : (o >>= f).Finds s b := by
  have hends : Always (Site.answering .answered) (fun r t => r = .ok b ∧ t = s)
      (o >>= f).outcome s := by
    rw [always_bind, Program.always_iff]
    intro x u hrun
    obtain ⟨rfl, rfl⟩ := (ho x u).1 hrun
    exact Program.always_iff.2 fun r t => (hf r t).1
  intro r t
  constructor
  · exact Program.always_iff.1 hends r t
  · intro h
    exact runs_bind ((ho _ _).2 ⟨rfl, rfl⟩) ((hf r t).2 h)

/-- What is certain is found. -/
theorem finds_ofExcept {x : Except Error α} (h : x = .ok a) : (ofExcept x).Finds s a := by
  subst h
  exact fun _ _ => Iff.rfl

end Operation

/-- What reads and is answered finds what is there. -/
theorem Site.reads_answered_iff {α : Type} {s t : Site} {y : α} {x : Except Error α} :
    (∃ found, x = .ok found) ∧ s.Reads y x t ↔ x = .ok y ∧ t = s := by
  constructor
  · rintro ⟨⟨found, rfl⟩, rfl, hfound | ⟨e, he⟩⟩
    · exact ⟨hfound, rfl⟩
    · nomatch he
  · rintro ⟨rfl, rfl⟩
    exact ⟨⟨y, rfl⟩, rfl, .inl rfl⟩

/-- A listing finds the stored objects. -/
theorem Registry.finds_objects (kind : Kind) (s : Site) :
    (objects kind).Finds s (s.objects.list kind) := by
  intro r t
  constructor
  · rintro ⟨x, u, hx, rfl, rfl⟩
    exact Site.reads_answered_iff.1 hx
  · intro h
    exact ⟨r, t, Site.reads_answered_iff.2 h, rfl, rfl⟩

/-- A look-up finds the stored object, if there is one. -/
theorem Registry.finds_get (kind : Kind) (id : String) (s : Site) :
    (Operation.ofProgram (.ask (.get kind id))).Finds s (s.objects.get? kind id) := by
  intro r t
  constructor
  · rintro ⟨x, u, hx, rfl, rfl⟩
    exact Site.reads_answered_iff.1 hx
  · intro h
    exact ⟨r, t, Site.reads_answered_iff.2 h, rfl, rfl⟩

namespace Shelf

variable {α : Type}

/-- The values on a shelf that are read of one environment or of all. -/
def within (f : Shelf α) (environmentOf : α → String) (environment : Option String) :
    Operation (List α) := do
  let all ← .ofExcept ((← Registry.objects f.kind).mapM fun o => f.decode o.payload)
  return all.filter fun a => Registry.isWithin environment (environmentOf a)

/-- The values of the contents are found. -/
theorem finds_within (f : Shelf α) (environmentOf : α → String) (environment : Option String)
    (k : Contents) (w : Finset (String × String)) :
    (f.within environmentOf environment).Finds (k.site w)
      (((f.values k).entries.map (·.2)).filter fun a =>
        Registry.isWithin environment (environmentOf a)) := by
  unfold within
  apply (Registry.finds_objects f.kind (k.site w)).bind
  apply (Operation.finds_ofExcept (f.mapM_list k)).bind
  exact Operation.finds_ofExcept rfl

/-- A value is stored under a key if it is among the contents there. -/
theorem find?_shelf_iff (f : Shelf α) {k : Contents} {id : String} {a : α} :
    (k.objects.shelf f.kind).find? id = some (f.encode a) ↔ (f.values k).find? id = some a := by
  rw [f.shelf_objects, SortedMap.find?_map, Option.map_eq_some_iff]
  constructor
  · rintro ⟨b, hb, heq⟩
    -- Two values with one payload are read as one.
    have hread : f.decode (f.encode b) = f.decode (f.encode a) := congrArg f.decode heq
    rw [f.decode_encode, f.decode_encode] at hread
    rw [hb, Except.ok.inj hread]
  · intro ha
    exact ⟨a, ha, rfl⟩

/-- The stored values are found in the order of their names, if they name their keys. -/
theorem exists_finds_within (f : Shelf α) {name : α → String} {k : Contents}
    (hname : ∀ {id a}, (f.values k).find? id = some a → name a = id) (environmentOf : α → String)
    (environment : Option String) (w : Finset (String × String)) :
    ∃ l, (f.within environmentOf environment).Finds (k.site w) l ∧
      (l.map name).Pairwise (· < ·) ∧
      ∀ a, a ∈ l ↔ (k.objects.shelf f.kind).find? (name a) = some (f.encode a) ∧
        Registry.isWithin environment (environmentOf a) = true := by
  refine ⟨_, f.finds_within environmentOf environment k w, ?_, ?_⟩
  · exact (SortedMap.ascending_names hname).sublist (List.filter_sublist.map name)
  · intro a
    rw [List.mem_filter, SortedMap.mem_values_iff hname, f.find?_shelf_iff]

end Shelf

namespace Contents

variable {k : Contents} {w : Finset (String × String)}

/-- The notification settings of the contents are found. -/
theorem finds_alertConfig : Registry.alertConfig.Finds (k.site w) k.settings := by
  unfold Registry.alertConfig
  apply (Registry.finds_get .alertConfig Registry.settingsId (k.site w)).bind
  rw [objects_site, get?_settings]
  cases k.settings with
  | none => exact Operation.finds_ofExcept rfl
  | some c =>
    apply Operation.finds_ofExcept
    show (AlertConfig.ofPayload c.payload).map some = _
    rw [AlertConfig.ofPayload_payload]
    rfl

end Contents

/-- Wherever tasks lead, the store is well formed; and if what is asked of it is answered, the
alerts and the recipients, of one environment or of all, are found as they are stored, in the order
of their own ids, and so are the notification settings. -/
theorem wellFormed_of_reached {P : Promise} {s : Site} (h : Reached P s) :
    s.objects.WellFormed ∧
    (∀ environment, ∃ l, (Registry.alerts environment).Finds s l ∧
      (l.map (·.id)).Pairwise (· < ·) ∧
      ∀ a, a ∈ l ↔ s.objects.alerts.find? a.id = some a.payload ∧
        Registry.isWithin environment a.environment = true) ∧
    (∀ environment, ∃ l, (Registry.recipients environment).Finds s l ∧
      (l.map (·.id)).Pairwise (· < ·) ∧
      ∀ r, r ∈ l ↔ s.objects.recipients.find? r.id = some r.payload ∧
        Registry.isWithin environment r.environment = true) ∧
    ∃ c, Registry.alertConfig.Finds s c ∧
      s.objects.alertConfigs.find? Registry.settingsId = c.map AlertConfig.payload := by
  obtain ⟨k, w, rfl, hvalid⟩ := valid_of_reached h
  refine ⟨hvalid.wellFormed, ?_, ?_, k.settings, Contents.finds_alertConfig, ?_⟩
  · intro environment
    exact Shelf.alerts.exists_finds_within k.id_of_alert (·.environment) environment w
  · intro environment
    exact Shelf.recipients.exists_finds_within k.id_of_recipient (·.environment) environment w
  · show (Contents.settingsShelf k.settings).find? _ = _
    cases k.settings with
    | none => rfl
    | some c =>
      show (SortedMap.empty.insert _ _).find? _ = _
      rw [SortedMap.find?_insert, if_pos rfl]
      rfl

/-- Where a recipient and an alert of it were created, the store is well formed. -/
theorem wellFormed_of_reached_created :
    Reached .none ((Contents.sample (.sample "gen-0002" "e1" "gen-0001" .enabled)).site ∅) ∧
      (Contents.sample (.sample "gen-0002" "e1" "gen-0001" .enabled)).objects.WellFormed ∧
      ∃ l, (Registry.alerts (some "e1")).Finds
        ((Contents.sample (.sample "gen-0002" "e1" "gen-0001" .enabled)).site ∅) l ∧
          .sample "gen-0002" "e1" "gen-0001" .enabled ∈ l := by
  have hreached : Reached .none
      ((Contents.sample (.sample "gen-0002" "e1" "gen-0001" .enabled)).site ∅) :=
    reached_sample Promise.permissive_none (fun _ => trivial) trivial (by decide)
  obtain ⟨hwellFormed, halerts, -⟩ := wellFormed_of_reached hreached
  obtain ⟨l, hfinds, -, hmem⟩ := halerts (some "e1")
  exact ⟨hreached, hwellFormed, l, hfinds, (hmem _).2 ⟨rfl, rfl⟩⟩

end AlertSync
