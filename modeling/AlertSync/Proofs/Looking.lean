import AlertSync.Proofs.Program.Replies
import AlertSync.Proofs.Registry
import AlertSync.Proofs.View

/-!
# Looking at any store

The store may hold any payloads, under any keys: what cannot be read, and objects that go by another
id than their key. What the registry then finds depends on the stored objects alone
(`Shelf.readIn`, `Shelf.readAll`, `Objects.settings`). An operation that only looks at them
(`Operation.Looks`) changes nothing and has nothing to do with the alerting backend; it ends as
what is stored says, or one of its calls failed and it with it.
-/

namespace AlertSync

open Program (Always)

/-- What is read one by one goes with what it is read from. -/
theorem map_eq_map_of_mapM {α β γ ε : Type} {f : α → Except ε β} {g : α → γ} {g' : β → γ}
    {l : List α} {l' : List β} (h : l.mapM f = .ok l')
    (hg : ∀ a ∈ l, ∀ b, f a = .ok b → g' b = g a) : l'.map g' = l.map g := by
  induction l generalizing l' with
  | nil =>
    obtain rfl := Except.ok.inj h
    rfl
  | cons a l ih =>
    rw [List.mapM_cons] at h
    cases hb : f a with
    | error e =>
      rw [hb] at h
      nomatch h
    | ok b =>
      cases hl : l.mapM f with
      | error e =>
        rw [hb, hl] at h
        nomatch h
      | ok bs =>
        rw [hb, hl] at h
        obtain rfl := Except.ok.inj h
        rw [List.map_cons, List.map_cons, hg a List.mem_cons_self b hb,
          ih hl fun a' ha' => hg a' (List.mem_cons_of_mem a ha')]

namespace Shelf

variable {α : Type}

/-- The value that is read under an id of some objects. -/
def readIn (f : Shelf α) (o : Objects) (id : String) : Except Error α :=
  match o.get? f.kind id with
  | some object => f.decode object.payload
  | none => .error (.noObject f.kind id)

/-- All values that are read from some objects, in the order of their keys. -/
def readAll (f : Shelf α) (o : Objects) : Except Error (List α) :=
  (o.list f.kind).mapM fun object => f.decode object.payload

/-- What is read from the objects of some contents are their values. -/
theorem readIn_objects (f : Shelf α) {k : Contents} {id : String} {a : α}
    (hfound : (f.values k).find? id = some a) : f.readIn k.objects id = .ok a := by
  unfold readIn
  rw [f.get?_objects, hfound]
  exact f.decode_encode a

/-- All that is read from the objects of some contents are their values. -/
theorem readAll_objects (f : Shelf α) (k : Contents) :
    f.readAll k.objects = .ok ((f.values k).entries.map (·.2)) := f.mapM_list k

end Shelf

/-- Whether every alert that can be read is stored under its own id. -/
def Objects.OwnIds (o : Objects) : Prop :=
  ∀ id payload a, o.alerts.find? id = some payload → Alert.ofPayload payload = .ok a → a.id = id

/-- Contents have their alerts under their own ids. -/
theorem Contents.ownIds_objects (k : Contents) : k.objects.OwnIds := by
  intro id payload a hpayload ha
  change (k.alerts.map Alert.payload).find? id = some payload at hpayload
  rw [SortedMap.find?_map, Option.map_eq_some_iff] at hpayload
  obtain ⟨b, hb, rfl⟩ := hpayload
  rw [Alert.ofPayload_payload] at ha
  rw [← Except.ok.inj ha]
  exact k.id_of_alert hb

/-- How an operation may have looked: nothing is changed, the alerting backend was not called, and
it ended as the verdict says, unless a call failed. -/
structure Looked {α : Type} (verdict : Except Error α → Prop) (s : Tally) (l : List Reply)
    (r : Except Error α) (t : Tally × List Reply) : Prop where
  unchanged : t.1 = s
  replies : ∃ m, t.2 = l ++ m ∧ (∀ x ∈ m, x.call.isAlerting = false) ∧
    (verdict r ∨ (∃ e, r = .error e) ∧ ∃ x ∈ m, x.failed = true)

/-- A call has looked that ended as it should or failed. -/
theorem Looked.single {α : Type} {verdict : Except Error α → Prop} {s : Tally} {l : List Reply}
    {r : Except Error α} {x : Reply} (halerting : x.call.isAlerting = false)
    (hend : verdict r ∨ (∃ e, r = .error e) ∧ x.failed = true) :
    Looked verdict s l r (s, l ++ [x]) := by
  refine ⟨rfl, [x], rfl, ?_, ?_⟩
  · intro y hy
    rw [List.mem_singleton.1 hy]
    exact halerting
  · obtain hv | ⟨herror, hfailed⟩ := hend
    · exact .inl hv
    · exact .inr ⟨herror, x, List.mem_singleton_self x, hfailed⟩

/-- Whether an operation only looks, and ends as the verdict says unless a call fails. -/
def Operation.Looks {α : Type} (o : Operation α) (verdict : Except Error α → Prop) (s : Tally) :
    Prop :=
  ∀ l, Always Tally.answering.noted (Looked verdict s l) o.outcome (s, l)

namespace Operation

variable {α β : Type} {s : Tally}

/-- What does not depend on the world ends with its value. -/
theorem looks_ofExcept (x : Except Error α) : (ofExcept x).Looks (· = x) s := by
  intro l
  refine ⟨rfl, [], (List.append_nil l).symm, ?_, .inl rfl⟩
  intro _ hx
  nomatch hx

/-- A verdict may be replaced by one that follows. -/
theorem Looks.mono {o : Operation α} {v v' : Except Error α → Prop} (ho : o.Looks v s)
    (himp : ∀ r, v r → v' r) : o.Looks v' s := by
  intro l
  apply (ho l).mono
  rintro r t ⟨hunchanged, m, hm, halerting, hend⟩
  exact ⟨hunchanged, m, hm, halerting, hend.imp_left (himp r)⟩

/-- An operation looks that begins by looking and goes on so where that succeeded. -/
theorem Looks.bind {o : Operation α} {f : α → Operation β} {v : Except Error α → Prop}
    {v' : Except Error β → Prop} (ho : o.Looks v s) (hfail : ∀ e, v (.error e) → v' (.error e))
    (hok : ∀ a, v (.ok a) → (f a).Looks v' s) : (o >>= f).Looks v' s := by
  intro l
  rw [always_bind]
  apply (ho l).mono
  rintro (e | a) ⟨t, l'⟩ ⟨rfl, m, rfl, halerting, hend⟩
  · refine ⟨rfl, m, rfl, halerting, ?_⟩
    obtain hv | ⟨-, hfailed⟩ := hend
    · exact .inl (hfail e hv)
    · exact .inr ⟨⟨e, rfl⟩, hfailed⟩
  · have hv : v (.ok a) := by
      obtain hv | ⟨⟨e, he⟩, -⟩ := hend
      · exact hv
      · nomatch he
    -- The replies of the second part follow those of the first.
    apply ((hok a hv) (l ++ m)).mono
    rintro r t' ⟨hunchanged, m', hm', halerting', hend'⟩
    refine ⟨hunchanged, m ++ m', ?_, ?_, ?_⟩
    · rw [hm', List.append_assoc]
    · intro x hx
      rw [List.mem_append] at hx
      exact hx.elim (halerting x) (halerting' x)
    · obtain hv' | ⟨herror, x, hx, hfailed⟩ := hend'
      · exact .inl hv'
      · exact .inr ⟨herror, x, List.mem_append_right m hx, hfailed⟩

/-- Looking for an object finds it, if it is there. -/
theorem looks_get (kind : Kind) (id : String) :
    (ofProgram (Program.ask (.get kind id)) : Operation (Option StoredObject)).Looks
      (· = .ok (s.ground.site.objects.get? kind id)) s := by
  rintro l x ⟨t, l'⟩ ⟨hx, rfl⟩
  have heq : t = s := Tally.eq_of_answering hx rfl rfl rfl rfl
  subst heq
  obtain ⟨-, rfl | ⟨e, rfl⟩⟩ := hx.1.1
  · exact .single rfl (.inl rfl)
  · exact .single rfl (.inr ⟨⟨e, rfl⟩, rfl⟩)

/-- Listing the objects of a kind finds those that are there. -/
theorem looks_list (kind : Kind) :
    (Registry.objects kind).Looks (· = .ok (s.ground.site.objects.list kind)) s := by
  rintro l x ⟨t, l'⟩ ⟨hx, rfl⟩
  have heq : t = s := Tally.eq_of_answering hx rfl rfl rfl rfl
  subst heq
  obtain ⟨-, rfl | ⟨e, rfl⟩⟩ := hx.1.1
  · exact .single rfl (.inl rfl)
  · exact .single rfl (.inr ⟨⟨e, rfl⟩, rfl⟩)

/-- A new id is always found. -/
theorem looks_freshId : freshId.Looks (fun r => ∃ id, r = .ok id) s := by
  rintro l x ⟨t, l'⟩ ⟨hx, rfl⟩
  have heq : t = s := Tally.eq_of_answering hx rfl rfl rfl rfl
  subst heq
  exact .single rfl (.inl ⟨x, rfl⟩)

end Operation

namespace Registry

variable {α : Type} {s : Tally}

/-- Looking a value up finds what is read under its id. -/
theorem looks_lookup (f : Shelf α) (id : String) :
    (f.lookup id).Looks (· = f.readIn s.ground.site.objects id) s := by
  have hpayload : (payload f.kind id).Looks (· =
      match s.ground.site.objects.get? f.kind id with
      | some object => .ok object.payload
      | none => .error (.noObject f.kind id)) s := by
    apply (Operation.looks_get f.kind id).bind
    · intro e h
      nomatch h
    · intro found h
      rw [← Except.ok.inj h]
      cases found with
      | none => exact Operation.looks_ofExcept (.error (.noObject f.kind id))
      | some object => exact Operation.looks_ofExcept (.ok object.payload)
  apply hpayload.bind
  · intro e h
    unfold Shelf.readIn
    split at h
    · nomatch h
    · exact congrArg Except.error (Except.error.inj h)
  · intro text h
    unfold Shelf.readIn
    split at h
    · rw [Except.ok.inj h]
      exact Operation.looks_ofExcept _
    · nomatch h

/-- Listing values finds all that are read. -/
theorem looks_listing (f : Shelf α) :
    f.listing.Looks (· = f.readAll s.ground.site.objects) s := by
  apply (Operation.looks_list f.kind).bind
  · intro e h
    nomatch h
  · intro objects h
    rw [Except.ok.inj h]
    apply (Operation.looks_ofExcept (f.readAll s.ground.site.objects)).bind
    · intro e h
      exact h
    · intro all h
      rw [List.filter_true, ← h]
      exact Operation.looks_ofExcept (.ok all)

/-- Looking the notification settings up finds those that are read. -/
theorem looks_alertConfig : alertConfig.Looks (· = s.ground.site.objects.settings) s := by
  apply (Operation.looks_get .alertConfig settingsId).bind
  · intro e h
    nomatch h
  · intro found h
    unfold Objects.settings
    rw [← Except.ok.inj h]
    cases found with
    | none => exact Operation.looks_ofExcept (.ok none)
    | some object =>
      exact Operation.looks_ofExcept ((AlertConfig.ofPayload object.payload).map some)

/-- An id for notification settings is always found. -/
theorem looks_settingsOwnId (c : AlertConfig) (former : Option AlertConfig) :
    (settingsOwnId c former).Looks (fun r => ∃ id, r = .ok id) s := by
  have hpure (id : String) : (pure id : Operation String).Looks (fun r => ∃ id, r = .ok id) s :=
    (Operation.looks_ofExcept (.ok id)).mono fun _ h => ⟨id, h⟩
  unfold settingsOwnId
  split
  · exact hpure _
  · split
    · exact Operation.looks_freshId
    · exact hpure _

end Registry

end AlertSync
