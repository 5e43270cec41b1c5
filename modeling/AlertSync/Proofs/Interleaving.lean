import AlertSync.Proofs.Lifecycle
import AlertSync.Proofs.Looking
import AlertSync.Proofs.Notifying
import AlertSync.Proofs.Program.Paths

/-!
# Tasks that run at the same time

Tasks may take turns call by call, in any order (`Interleaving`). Then a task that reads an alert
and later writes it back may write over what another one has done in between, since the whole alert
is written and nothing is locked: a tick that has listed an alert stores it as not disabled even if
it was disabled meanwhile (`not_respects_of_interleaving`).

What does hold of every interleaving is that ticks, and users who silence or unsilence an alert,
write back an alert that they have read themselves before, with nothing new but its state and its
times; and that a tick has not read it disabled. If nobody has written the alert since then, nothing
is lost: what they write differs from what is stored in the state and the times at most
(`respects_of_interleaving`). It must be stored under its own id, though; no task stores an alert
otherwise (`Task.calls_program`).

Of each task an interleaving has a path (`Interleaving.path`), and tasks are guided along their
paths by what they have read (`Task.guided_program`). Of the site an interleaving makes a chain of
answered calls (`Interleaving.chain`), along which an alert stays as it is until it is written
(`alert?_eq_of_chain`).
-/

namespace AlertSync

open Program (Path Guided)

/-! ## Chains of calls -/

/-- A call of one of several tasks with its answer, and the site before and after it. -/
structure Event (ι : Type) where
  actor : ι
  reply : Reply
  before : Site
  after : Site

variable {ι : Type} {s t : Site}

/-- Whether calls were answered one after the other, from a site to another. -/
def IsChain : Site → List (Event ι) → Site → Prop
  | s, [], t => t = s
  | s, e :: l, t =>
    e.before = s ∧ Site.answering .none e.reply.call s e.reply.answer e.after ∧ IsChain e.after l t

/-- A chain may be followed by another. -/
theorem isChain_append {l m : List (Event ι)} :
    IsChain s (l ++ m) t ↔ ∃ u, IsChain s l u ∧ IsChain u m t := by
  induction l generalizing s with
  | nil =>
    constructor
    · intro h
      exact ⟨s, rfl, h⟩
    · rintro ⟨u, rfl, h⟩
      exact h
  | cons e l ih =>
    constructor
    · rintro ⟨hbefore, hx, h⟩
      obtain ⟨u, hl, hm⟩ := ih.1 h
      exact ⟨u, ⟨hbefore, hx, hl⟩, hm⟩
    · rintro ⟨u, ⟨hbefore, hx, hl⟩, hm⟩
      exact ⟨hbefore, hx, ih.2 ⟨u, hl, hm⟩⟩

/-- The alert that a call is to write, if it is to write one. -/
def Call.writtenAlert? : Call → Option String
  | create .alert id _ | update .alert id _ | delete .alert id => some id
  | _ => none

/-- Whether a call has written an alert. -/
def Reply.WritesAlert (x : Reply) (id : String) : Prop :=
  x.call.wrote x.answer = true ∧ x.call.writtenAlert? = some id

/-- The payloads of alerts after a call has written to the store. -/
def Call.alertsAfter (c : Call) (m : SortedMap String) : SortedMap String :=
  match c with
  | create .alert id payload | update .alert id payload => m.insert id payload
  | delete .alert id => m.erase id
  | _ => m

/-- Under an id that a call is not to write, the same payload is found afterwards. -/
theorem Call.find?_alertsAfter {c : Call} {id : String} (h : c.writtenAlert? ≠ some id)
    (m : SortedMap String) : (c.alertsAfter m).find? id = m.find? id := by
  have hne (key : String) (hkey : c.writtenAlert? = some key) : id ≠ key := by
    rintro rfl
    exact h hkey
  unfold alertsAfter
  split
  · rw [SortedMap.find?_insert, if_neg (hne _ rfl)]
  · rw [SortedMap.find?_insert, if_neg (hne _ rfl)]
  · rw [SortedMap.find?_erase, if_neg (hne _ rfl)]
  · rfl

/-- The payload that is found under an id after a call was to write it is the one that it was to
store. -/
theorem Call.stores_of_find?_alertsAfter {c : Call} {id payload : String} {m : SortedMap String}
    (h : c.writtenAlert? = some id) (hfound : (c.alertsAfter m).find? id = some payload) :
    c = .create .alert id payload ∨ c = .update .alert id payload := by
  unfold writtenAlert? at h
  split at h
  · obtain rfl := Option.some.inj h
    rw [alertsAfter, SortedMap.find?_insert, if_pos rfl] at hfound
    exact .inl (by rw [Option.some.inj hfound])
  · obtain rfl := Option.some.inj h
    rw [alertsAfter, SortedMap.find?_insert, if_pos rfl] at hfound
    exact .inr (by rw [Option.some.inj hfound])
  · obtain rfl := Option.some.inj h
    rw [alertsAfter, SortedMap.find?_erase, if_pos rfl] at hfound
    nomatch hfound
  · nomatch h

/-- What a call makes of the payloads of alerts. -/
theorem Site.Effect.alerts_eq {c : Call} {x : c.Answer} (h : s.Effect c x t) :
    t.objects.alerts =
      if c.wrote x then c.alertsAfter s.objects.alerts else s.objects.alerts := by
  cases c with
  | create kind key payload =>
    obtain ⟨o, ho, rfl, rfl⟩ | ⟨e, rfl, rfl⟩ := h
    · rw [Objects.create] at ho
      split at ho
      · cases ho
      · obtain rfl := Except.ok.inj ho
        cases kind <;> rfl
    · rfl
  | update kind key payload =>
    obtain ⟨o, ho, rfl, rfl⟩ | ⟨e, rfl, rfl⟩ := h
    · rw [Objects.update] at ho
      split at ho
      · obtain rfl := Except.ok.inj ho
        cases kind <;> rfl
      · cases ho
    · rfl
  | delete kind key =>
    obtain ⟨o, ho, rfl, rfl⟩ | ⟨e, rfl, rfl⟩ := h
    · rw [Objects.delete] at ho
      split at ho
      · obtain rfl := Except.ok.inj ho
        cases kind <;> rfl
      · cases ho
    · rfl
  | addSilence a | removeSilence a =>
    obtain ⟨-, rfl⟩ | ⟨e, -, rfl⟩ := h
    · rfl
    · rfl
  | list _ | get _ _ | freshId | notify _ | count _ | counters | liveAlerts | reloadRoutes
  | reloadMetrics | environments | hosts _ | readFile _ | writeFile _ _ | moveFile _ _
  | removeFile _ | pause _ => rw [Site.Effect.eq_of_changesSite rfl h]; rfl

/-- An alert that a call has not written is as before. -/
theorem Site.Effect.alert?_eq {x : Reply} {id : String} (h : s.Effect x.call x.answer t)
    (hnot : ¬ x.WritesAlert id) : t.alert? id = s.alert? id := by
  have hfind : t.objects.alerts.find? id = s.objects.alerts.find? id := by
    rw [h.alerts_eq]
    split
    · next hwrote => exact Call.find?_alertsAfter (fun hkey => hnot ⟨hwrote, hkey⟩) _
    · rfl
  rw [alert?, hfind]
  rfl

/-- Whether a call, if it stores an alert, stores it under the id of the alert. -/
def Call.StoresOwn (c : Call) : Prop :=
  ∀ id payload, c = .create .alert id payload ∨ c = .update .alert id payload →
    ∀ a, Alert.ofPayload payload = .ok a → a.id = id

/-- Alerts stay under their own ids if they are stored so. -/
theorem Site.Effect.ownIds {x : Reply} (h : s.Effect x.call x.answer t)
    (hcall : x.call.StoresOwn) (hown : s.objects.OwnIds) : t.objects.OwnIds := by
  intro id payload a hfound hread
  by_cases hwrites : x.WritesAlert id
  · rw [h.alerts_eq, if_pos hwrites.1] at hfound
    exact hcall id payload (Call.stores_of_find?_alertsAfter hwrites.2 hfound) a hread
  · have hsame := h.alert?_eq hwrites
    rw [Site.alert?_eq_some_iff.2 ⟨payload, hfound, hread⟩] at hsame
    obtain ⟨payload', hfound', hread'⟩ := Site.alert?_eq_some_iff.1 hsame.symm
    exact hown id payload' a hfound' hread'

/-- Along a chain on which nobody has written an alert it stays as it is. -/
theorem alert?_eq_of_chain {l : List (Event ι)} {id : String} (h : IsChain s l t)
    (hnot : ∀ e ∈ l, ¬ e.reply.WritesAlert id) : t.alert? id = s.alert? id := by
  induction l generalizing s with
  | nil => rw [h]
  | cons e l ih =>
    obtain ⟨-, ⟨-, heffect⟩, hrest⟩ := h
    have hfirst : e.after.alert? id = s.alert? id :=
      heffect.alert?_eq (hnot e List.mem_cons_self)
    rw [ih hrest fun e' he' => hnot e' (List.mem_cons_of_mem e he'), hfirst]

/-- Along a chain on which alerts are stored under their own ids, they stay so. -/
theorem ownIds_of_chain {l : List (Event ι)} (h : IsChain s l t)
    (hcalls : ∀ e ∈ l, e.reply.call.StoresOwn) (hown : s.objects.OwnIds) : t.objects.OwnIds := by
  induction l generalizing s with
  | nil =>
    obtain rfl := h
    exact hown
  | cons e l ih =>
    obtain ⟨-, ⟨-, heffect⟩, hrest⟩ := h
    apply ih hrest fun e' he' => hcalls e' (List.mem_cons_of_mem e he')
    exact heffect.ownIds (hcalls e List.mem_cons_self) hown

/-! ## Interleavings -/

variable [DecidableEq ι] {tasks : ι → Task}

/-- What may happen if tasks that begin at a site take turns: the calls that were made, what is left
of the programs of the tasks, and the site. -/
inductive Interleaving (tasks : ι → Task) (s : Site) :
    List (Event ι) → (ι → Program (Except Error Unit)) → Site → Prop
  | start : Interleaving tasks s [] (fun i => (tasks i).program) s
  /-- One of the tasks makes its next call and is answered. -/
  | step {l : List (Event ι)} {ps : ι → Program (Except Error Unit)} {t u : Site} {i : ι} {c : Call}
      {next : c.Answer → Program (Except Error Unit)} {x : c.Answer}
      (h : Interleaving tasks s l ps t) (hcall : ps i = .call c next)
      (hx : Site.answering .none c t x u) :
      Interleaving tasks s (l ++ [⟨i, ⟨c, x⟩, t, u⟩]) (Function.update ps i (next x)) u

/-- The replies that a task got. -/
def repliesTo (i : ι) (l : List (Event ι)) : List Reply :=
  (l.filter fun e => e.actor = i).map (·.reply)

/-- The replies before and after an event of a task. -/
theorem repliesTo_append_cons (e : Event ι) (l m : List (Event ι)) :
    repliesTo e.actor (l ++ e :: m) =
      repliesTo e.actor l ++ e.reply :: repliesTo e.actor m := by
  unfold repliesTo
  rw [List.filter_append, List.filter_cons_of_pos (by simp), List.map_append,
    List.map_cons]

/-- An event of another task gives a task no reply. -/
theorem repliesTo_append_of_ne {i : ι} {e : Event ι} (h : e.actor ≠ i) (l : List (Event ι)) :
    repliesTo i (l ++ [e]) = repliesTo i l := by
  unfold repliesTo
  rw [List.filter_append, List.filter_cons_of_neg (by simpa using h), List.filter_nil,
    List.append_nil]

namespace Interleaving

variable {l : List (Event ι)} {ps : ι → Program (Except Error Unit)}

/-- The calls of an interleaving were answered one after the other. -/
theorem chain (h : Interleaving tasks s l ps t) : IsChain s l t := by
  induction h with
  | start => rfl
  | step _ _ hx ih => exact isChain_append.2 ⟨_, ih, rfl, hx, rfl⟩

/-- The replies that a task got lead from its program to what is left of it. -/
theorem path (h : Interleaving tasks s l ps t) (i : ι) :
    Path (tasks i).program (repliesTo i l) (ps i) := by
  induction h with
  | start => rfl
  | @step l ps t u j c next x _ hcall hx ih =>
    by_cases hij : j = i
    · -- It was the turn of this task.
      subst hij
      rw [repliesTo_append_cons ⟨j, ⟨c, x⟩, t, u⟩, Function.update_self]
      rw [hcall] at ih
      exact Program.path_append.2 ⟨_, ih, next, rfl, rfl⟩
    · rw [repliesTo_append_of_ne hij, Function.update_of_ne (Ne.symm hij)]
      exact ih

end Interleaving

/-! ## Own ids -/

/-- What does not write to the store stores no alert. -/
theorem Call.storesOwn_of_isHarmless (c : Call) (h : c.isHarmless = true) : c.StoresOwn := by
  rintro id payload (rfl | rfl)
  · nomatch h
  · nomatch h

/-- What is read of the payload of a resource that is an alert has its key for an id. -/
theorem Resource.id_eq_key {x : Resource} {a : Alert} (hkind : x.kind = .alert)
    (hread : Alert.ofPayload x.encode = .ok a) : a.id = x.key := by
  cases x with
  | alert b =>
    change Alert.ofPayload b.payload = .ok a at hread
    rw [Alert.ofPayload_payload] at hread
    rw [← Except.ok.inj hread]
    rfl
  | recipient _ | alertConfig _ => nomatch hkind

/-- A change stores an alert under its own id. -/
theorem Edit.calls_write (e : Edit) : e.write.outcome.Calls Call.StoresOwn := by
  cases e with
  | create x =>
    apply Program.calls_ask
    rintro id payload (h | h) a hread
    · obtain ⟨hkind, rfl, rfl⟩ := Call.create.inj h
      exact Resource.id_eq_key hkind hread
    · nomatch h
  | update x =>
    apply Program.calls_ask
    rintro id payload (h | h) a hread
    · nomatch h
    · obtain ⟨hkind, rfl, rfl⟩ := Call.update.inj h
      exact Resource.id_eq_key hkind hread
  | deleteAlert _ | deleteRecipient _ =>
    apply Program.calls_ask
    rintro id payload (h | h)
    · nomatch h
    · nomatch h

/-- Performing a draft stores an alert under its own id. -/
theorem Draft.calls_perform (d : Draft) : d.perform.outcome.Calls Call.StoresOwn := by
  unfold perform
  apply Operation.calls_bind d.edit.calls_write
  exact fun _ => calls_notify Call.storesOwn_of_isHarmless d.topics

/-- Every task stores alerts under their own ids. -/
theorem Task.calls_program (task : Task) : task.program.Calls Call.StoresOwn := by
  have hharmless := Call.storesOwn_of_isHarmless
  cases task with
  | request q =>
    show q.operation.outcome.Calls _
    rw [q.operation_eq]
    exact Operation.calls_bind (q.calls_draft.mono hharmless) Draft.calls_perform
  | tick =>
    rw [program_tick]
    apply Operation.calls_bind (Program.calls_ask (hharmless _ rfl))
    intro live
    apply Operation.calls_bind
    · apply (Registry.calls_listing .alerts).mono
      exact fun c h => hharmless c (Call.isHarmless_of_isRead c h)
    · intro alerts
      apply Program.calls_bind
      · apply Program.calls_forM
        intro a _
        exact Synchronizer.calls_settle hharmless
          ((Edit.update (.alert (a.reconcile live).alert)).calls_write.1)
      · exact fun _ => trivial

/-- Along an interleaving alerts are stored under their own ids. -/
theorem Interleaving.storesOwn {l : List (Event ι)} {ps : ι → Program (Except Error Unit)}
    (h : Interleaving tasks s l ps t) {e : Event ι} (he : e ∈ l) : e.reply.call.StoresOwn := by
  obtain ⟨l₁, l₂, rfl⟩ := List.append_of_mem he
  have hpath := h.path e.actor
  rw [repliesTo_append_cons] at hpath
  have hguided : (tasks e.actor).program.Guided (fun _ => Call.StoresOwn) (fun _ _ => True) [] :=
    Program.guided_of_calls (tasks e.actor).calls_program (fun _ _ hc => hc) fun _ _ => trivial
  exact hguided.of_mem_path hpath

/-! ## What is written back -/

/-- Whether an alert has nothing new to another but its state and its times. -/
def Alert.Restates (b a : Alert) : Prop :=
  b = { a with state := b.state, startsAt := b.startsAt, endsAt := b.endsAt }

/-- Whether a reply shows a value of a shelf under a key. -/
inductive Reply.Shows {α : Type} (f : Shelf α) (key : String) (a : α) : Reply → Prop
  /-- The value was looked up. -/
  | get {object : StoredObject} (hread : f.decode object.payload = .ok a) :
      Shows f key a ⟨.get f.kind key, .ok (some object)⟩
  /-- The value was listed. -/
  | list {objects : List StoredObject} {object : StoredObject} (hmem : object ∈ objects)
      (hkey : object.id = key) (hread : f.decode object.payload = .ok a) :
      Shows f key a ⟨.list f.kind, .ok objects⟩

/-- Whether a task writes alerts only for what was observed of them or for their silences. -/
def Task.isObserving : Task → Bool
  | tick | request (.act .silence _) | request (.act .unsilence _) => true
  | _ => false

/-- Whether an alert that a task is to write is one that the task was shown, with nothing new but
its state and its times; a tick was not shown it disabled. -/
def Task.Recalls (task : Task) (l : List Reply) (c : Call) : Prop :=
  ∀ id payload, c = .update .alert id payload →
    ∃ x ∈ l, ∃ key a b, x.Shows .alerts key a ∧ a.id = id ∧ b.Restates a ∧
      payload = Alert.payload b ∧ (task = .tick → a.isDisabled = false)

namespace Task

variable {task : Task} {l : List Reply}

/-- Whatever does not write alerts recalls what it writes. -/
theorem recalls_of_isHarmless {c : Call} (h : c.isHarmless = true) : task.Recalls l c := by
  rintro id payload rfl
  nomatch h

/-- Who was shown an alert may write it with another state and other times. -/
theorem recalls_of_shows {x : Reply} (hx : x ∈ l) {key : String} {a b : Alert}
    (hshows : x.Shows .alerts key a) (hid : b.id = a.id) (hrestates : b.Restates a)
    (htick : task = .tick → a.isDisabled = false) :
    task.Recalls l (.update .alert b.id b.payload) := by
  intro id payload heq
  obtain ⟨-, rfl, rfl⟩ := Call.update.inj heq
  exact ⟨x, hx, key, a, b, hshows, hid.symm, hrestates, rfl, htick⟩

end Task

/-- Whether every call of an operation satisfies a condition on the replies before it. -/
def Operation.Guided {α : Type} (o : Operation α) (C : List Reply → Call → Prop) (l : List Reply) :
    Prop :=
  o.outcome.Guided C (fun _ _ => True) l

/-- An operation is guided that goes on guided where its first part has led. -/
theorem Operation.guided_bind {α β : Type} {C : List Reply → Call → Prop} {o : Operation α}
    {f : α → Operation β} {l : List Reply}
    (h : o.outcome.Guided C (fun r m => ∀ a, r = .ok a → (f a).Guided C m) l) :
    (o >>= f).Guided C l := by
  show (o.outcome >>= ExceptT.bindCont f).Guided C _ l
  rw [Program.guided_bind]
  apply h.mono
  rintro (e | a) m hm
  · trivial
  · exact hm a rfl

namespace Registry

variable {C : List Reply → Call → Prop} {l : List Reply}

/-- Who has looked a value up was shown it. -/
theorem guided_lookup {α : Type} (f : Shelf α) {id : String} (hget : C l (.get f.kind id)) :
    (f.lookup id).outcome.Guided C (fun r m => ∀ a, r = .ok a → ∃ x ∈ m, x.Shows f id a) l := by
  refine ⟨hget, ?_⟩
  rintro (e | _ | object)
  · intro a h
    nomatch h
  · intro a h
    nomatch h
  · intro a h
    exact ⟨_, List.mem_append_right l (List.mem_singleton_self _), .get h⟩

/-- Who has listed all values was shown each of them. -/
theorem guided_listing {α : Type} (f : Shelf α) (hlist : C l (.list f.kind)) :
    f.listing.outcome.Guided C
      (fun r m => ∀ all, r = .ok all → ∀ a ∈ all, ∃ x ∈ m, ∃ key, x.Shows f key a) l := by
  refine ⟨hlist, ?_⟩
  rintro (e | objects)
  · intro all h
    nomatch h
  · show (Operation.ofExcept (objects.mapM fun o => f.decode o.payload) >>= fun all =>
      pure (all.filter fun _ => true) : Operation (List α)).outcome.Guided C _ _
    cases hread : objects.mapM fun o => f.decode o.payload with
    | error e =>
      intro all h
      nomatch h
    | ok read =>
      intro all h a ha
      have hall : all = read := (Except.ok.inj h).symm.trans (List.filter_true read)
      have hmap : read.map Except.ok = objects.map fun o => f.decode o.payload :=
        map_eq_map_of_mapM hread fun o _ a h => h.symm
      have hmem : Except.ok a ∈ objects.map fun o => f.decode o.payload := by
        rw [← hmap, ← hall]
        exact List.mem_map_of_mem ha
      obtain ⟨object, hobject, hpayload⟩ := List.mem_map.1 hmem
      exact ⟨_, List.mem_append_right l (List.mem_singleton_self _), object.id,
        .list hobject rfl hpayload⟩

end Registry

/-- Moving an alert calls for nothing but what is harmless and that the alert is stored. -/
theorem Lifecycle.calls_move {C : Call → Prop} {a : Alert} {action : AlertAction}
    (hharmless : ∀ c, c.isHarmless = true → C c)
    (hstore : C (.update .alert a.id (Alert.payload { a with state := action.target }))) :
    (do
      prepare a action
      Registry.updateAlert { a with state := action.target }
      announce action
      return { a with state := action.target } : Operation Alert).outcome.Calls C := by
  have hupdate : (do
      Registry.updateAlert { a with state := action.target }
      announce action
      return { a with state := action.target } : Operation Alert).outcome.Calls C := by
    refine ⟨hstore, ?_⟩
    rintro (e | _)
    · trivial
    · cases action with
      | enable | disable => exact ⟨hharmless _ rfl, fun _ => ⟨hharmless _ rfl, fun _ => trivial⟩⟩
      | silence | unsilence => trivial
  have hprepare : (prepare a action).outcome.Calls C := by
    cases action with
    | enable | disable => trivial
    | silence | unsilence => exact ⟨hharmless _ rfl, fun _ => trivial⟩
  exact Operation.calls_bind hprepare fun _ => hupdate

namespace Task

variable {l : List Reply}

/-- Whoever recalls what is written at any time from now on does so to the end. -/
theorem guided_of_recalls {α : Type} {task : Task} {o : Operation α}
    (h : o.outcome.Calls (task.Recalls l)) : o.Guided task.Recalls l := by
  apply Program.guided_of_calls h
  · intro m c hc id payload heq
    obtain ⟨x, hx, hrest⟩ := hc id payload heq
    exact ⟨x, List.mem_append_left m hx, hrest⟩
  · intros
    trivial

/-- A tick recalls what it writes. -/
theorem guided_tick : tick.program.Guided (Recalls .tick) (fun _ _ => True) l := by
  rw [program_tick]
  apply Operation.guided_bind
  refine ⟨recalls_of_isHarmless rfl, ?_⟩
  rintro x live rfl
  apply Operation.guided_bind
  apply (Registry.guided_listing .alerts (recalls_of_isHarmless rfl)).mono
  rintro r m hshown alerts rfl
  -- From the listing on it may write the alerts that were listed.
  apply guided_of_recalls
  apply Program.calls_bind
  · apply Program.calls_forM
    intro a ha
    rw [List.mem_filter, Bool.not_eq_true'] at ha
    obtain ⟨x, hx, key, hshows⟩ := hshown alerts rfl a ha.1
    apply Synchronizer.calls_settle
    · exact fun _ => recalls_of_isHarmless
    · exact recalls_of_shows hx hshows rfl rfl fun _ => ha.2
  · exact fun _ => trivial

/-- Whoever acts on an alert recalls what is written. -/
theorem guided_act (action : AlertAction) (id : String) :
    (Request.operation (.act action id)).Guided (Recalls (.request (.act action id))) l := by
  simp only [Request.operation, Lifecycle.act, map_bind]
  apply Operation.guided_bind
  apply (Registry.guided_lookup .alerts (recalls_of_isHarmless rfl)).mono
  rintro r m hshown a rfl
  obtain ⟨x, hx, hshows⟩ := hshown a rfl
  -- From the look-up on it may write the alert that was found.
  apply guided_of_recalls
  split
  · trivial
  · rw [← bind_pure_comp]
    apply Operation.calls_bind
    · apply Lifecycle.calls_move
      · exact fun _ => recalls_of_isHarmless
      · apply recalls_of_shows (b := { a with state := action.target }) hx hshows rfl rfl
        rintro ⟨⟩
    · exact fun _ => trivial

/-- Whoever writes an alert for what was observed of it or for its silence recalls it. -/
theorem guided_program {task : Task} (h : task.isObserving = true) :
    task.program.Guided task.Recalls (fun _ _ => True) [] := by
  cases task with
  | tick => exact guided_tick
  | request q =>
    cases q with
    | act action id => exact guided_act action id
    | createAlert _ | updateAlert _ _ | deleteAlert _ | createRecipient _ | updateRecipient _ _
    | deleteRecipient _ | saveAlertConfig _ => nomatch h

end Task

/-! ## What is lost, and what is not -/

/-- What a store shows of an alert is what it holds, and showing it changes nothing. -/
theorem Site.Effect.alert?_of_shows {x : Reply} {key : String} {a : Alert}
    (h : s.Effect x.call x.answer t) (hshows : x.Shows .alerts key a) :
    t = s ∧ s.alert? key = some a := by
  cases hshows with
  | get hread =>
    obtain ⟨hsame, hx | ⟨e, hx⟩⟩ := h
    · have hget := (Except.ok.inj hx).symm
      rw [Objects.get?, Option.map_eq_some_iff] at hget
      obtain ⟨payload, hpayload, rfl⟩ := hget
      exact ⟨hsame, alert?_eq_some_iff.2 ⟨payload, hpayload, hread⟩⟩
    · nomatch hx
  | list hmem hkey hread =>
    obtain ⟨hsame, hx | ⟨e, hx⟩⟩ := h
    · rw [Except.ok.inj hx] at hmem
      obtain ⟨entry, hentry, rfl⟩ := List.mem_map.1 hmem
      have hfound := SortedMap.mem_entries_iff.1 hentry
      rw [show entry.1 = key from hkey] at hfound
      exact ⟨hsame, alert?_eq_some_iff.2 ⟨_, hfound, hread⟩⟩
    · nomatch hx

/-- Whether an event, if it is an alert written for what was observed of it or for its silence,
changes nothing but the state and the times of the alert that is stored by then; and a tick writes
over no alert that is disabled by then. -/
def Event.Respects (tasks : ι → Task) (e : Event ι) : Prop :=
  ∀ id payload, e.reply.call = .update .alert id payload → e.reply.WritesAlert id →
    (tasks e.actor).isObserving = true → ∀ a, e.before.alert? id = some a →
      (tasks e.actor = .tick → a.isDisabled = false) ∧
        ∃ b : Alert, b.Restates a ∧ payload = b.payload

/-- In every interleaving, whoever writes an alert for what was observed of it or for its silence
has read it before, and writes it back with nothing new but its state and its times; and a tick has
not read it disabled. If the alert was stored under its own id, as all are if they are so at the
beginning, and nobody has written it since it was read, this is so of the alert that is stored by
then. -/
theorem respects_of_interleaving {l₁ l₂ : List (Event ι)} {e : Event ι}
    {ps : ι → Program (Except Error Unit)} (h : Interleaving tasks s (l₁ ++ e :: l₂) ps t)
    (hobserving : (tasks e.actor).isObserving = true) {id payload : String}
    (hcall : e.reply.call = .update .alert id payload) :
    ∃ m₁ r m₂ key a b, l₁ = m₁ ++ r :: m₂ ∧ r.actor = e.actor ∧ r.before.alert? key = some a ∧
      a.id = id ∧ Alert.Restates b a ∧ payload = b.payload ∧
      (tasks e.actor = .tick → a.isDisabled = false) ∧
      (s.objects.OwnIds ∨ key = id → (∀ x ∈ m₂, ¬ x.reply.WritesAlert id) →
        e.before.alert? id = some a ∧ e.Respects tasks) := by
  have hpath := h.path e.actor
  rw [repliesTo_append_cons] at hpath
  obtain ⟨x, hx, key, a, b, hshows, hid, hrestates, hpayload, htick⟩ :=
    (Task.guided_program hobserving).of_mem_path hpath id payload hcall
  -- The reply that showed the alert belongs to an event of the same task.
  obtain ⟨r, hr, rfl⟩ := List.mem_map.1 hx
  obtain ⟨hr, hactor⟩ := List.mem_filter.1 hr
  obtain ⟨m₁, m₂, rfl⟩ := List.append_of_mem hr
  obtain ⟨u, hchain, hrest⟩ := isChain_append.1 h.chain
  obtain ⟨v, hfirst, rfl, ⟨-, heffect⟩, hbetween⟩ := isChain_append.1 hchain
  obtain ⟨hsame, hread⟩ := heffect.alert?_of_shows hshows
  refine ⟨m₁, r, m₂, key, a, b, rfl, of_decide_eq_true hactor, hread, hid, hrestates, hpayload,
    htick, ?_⟩
  intro hown hnobody
  -- If alerts are under their own ids at the beginning, they still are when this one is read.
  have hkey : key = id := by
    obtain hown | hkey := hown
    · have hread_own := ownIds_of_chain hfirst (fun x hx => h.storesOwn (by simp [hx])) hown
      obtain ⟨text, hfound, htext⟩ := Site.alert?_eq_some_iff.1 hread
      rw [← hid]
      exact (hread_own key text a hfound htext).symm
    · exact hkey
  subst hkey
  have hbefore : e.before.alert? key = some a := by
    rw [hrest.1, alert?_eq_of_chain hbetween hnobody, hsame, hread]
  refine ⟨hbefore, ?_⟩
  intro id' payload' hcall' _ _ c hc
  rw [hcall] at hcall'
  obtain ⟨-, rfl, rfl⟩ := Call.update.inj hcall'
  rw [hbefore] at hc
  obtain rfl := Option.some.inj hc
  exact ⟨htick, b, hrestates, hpayload⟩

/-! ## A tick that writes over a disabled alert -/

/-- A task may make several calls in a row. -/
theorem Interleaving.exists_of_runs {α : Type} {l : List (Event ι)}
    {ps : ι → Program (Except Error Unit)} (h : Interleaving tasks s l ps t) {i : ι} {p : Program α}
    {f : α → Program (Except Error Unit)} (hps : ps i = p >>= f) {a : α} {u : Site}
    (hrun : p.Runs (Site.answering .none) t a u) :
    ∃ m, Interleaving tasks s (l ++ m) (Function.update ps i (f a)) u := by
  induction p generalizing l ps t with
  | done b =>
    obtain ⟨rfl, rfl⟩ := hrun
    refine ⟨[], ?_⟩
    rw [List.append_nil, Function.update_eq_self_iff.2 hps.symm]
    exact h
  | call c next ih =>
    obtain ⟨x, v, hx, hrun⟩ := hrun
    obtain ⟨m, hm⟩ := ih x (h.step hps hx) (Function.update_self _ _ _) hrun
    rw [List.append_assoc, Function.update_idem] at hm
    exact ⟨_, hm⟩

/-- An alert with its recipient, in some state. -/
def racingAlert (state : AlertState) : Alert := .sample "gen-0002" "e1" "gen-0001" state

/-- What fires is the alert. -/
def racingLive : List LiveAlert :=
  [.sample (.ofList [("alert_id", "gen-0002"), ("environment", "e1")]) "active"]

/-- The alert is disabled during a tick. -/
def racing : Bool → Task
  | true => .tick
  | false => .request (.act .disable "gen-0002")

/-- What is left of the tick once it has listed the alert. -/
def racingRest : Program (Except Error Unit) :=
  .call (.count (.transition .enabled .active)) fun _ =>
    .call (.update .alert "gen-0002" (racingAlert .active).payload) fun _ => .done (.ok ())

/-- Settling the alert is what is left of the tick. -/
theorem settle_racing : ((([racingAlert .enabled].filter fun a => !a.isDisabled).forM fun a =>
    Synchronizer.settle (a.reconcile racingLive)) >>= fun _ => .done (.ok ())) = racingRest := by
  have hreconcile : (racingAlert .enabled).reconcile racingLive =
      ⟨racingAlert .active, .enabled, true, false⟩ := by decide
  show ((Synchronizer.settle ((racingAlert .enabled).reconcile racingLive) >>= fun _ => pure ()) >>=
    fun _ => .done (.ok ()) : Program (Except Error Unit)) = _
  rw [hreconcile]
  rfl

/-- The tick may list the alert, and store it as active after it was disabled. -/
theorem exists_interleaving_racing : ∃ l t, ∃ ps : Bool → Program (Except Error Unit),
    Interleaving racing ((Contents.sample (racingAlert .enabled)).site ∅)
      (l ++ [⟨true, ⟨.update .alert "gen-0002" (racingAlert .active).payload, .ok ()⟩,
        (Contents.sample (racingAlert .disabled)).site ∅, t⟩]) ps t := by
  have hP := Promise.permissive_none
  have hstart : Interleaving racing ((Contents.sample (racingAlert .enabled)).site ∅) []
    (fun i => (racing i).program) _ := .start
  -- The tick asks for the live alerts and lists the alert while it is enabled.
  obtain ⟨l₁, h₁⟩ := hstart.exists_of_runs (i := true) (a := .ok racingLive) Task.program_tick
    ⟨_, _, ⟨trivial, rfl⟩, rfl, rfl⟩
  obtain ⟨l₂, h₂⟩ := h₁.exists_of_runs (i := true) (Function.update_self _ _ _)
    (hP.readable _ ∅).runs_alerts
  have hlisted : Interleaving racing ((Contents.sample (racingAlert .enabled)).site ∅) (l₁ ++ l₂)
      (Function.update (fun i => (racing i).program) true racingRest)
      ((Contents.sample (racingAlert .enabled)).site ∅) := by
    rw [Function.update_idem] at h₂
    rw [← settle_racing]
    exact h₂
  -- Then the alert is disabled.
  have hdisable : (racing false).program.Runs (Site.answering .none)
      ((Contents.sample (racingAlert .enabled)).site ∅) (.ok ())
      ((Contents.sample (racingAlert .disabled)).site ∅) := by
    have hput : (Contents.sample (racingAlert .enabled)).put (.alert (racingAlert .disabled)) =
        Contents.sample (racingAlert .disabled) := Contents.put_sample rfl rfl
    rw [← hput]
    exact Request.runs_operation hP
      (Request.runs_draft_disable hP (Contents.find?_sample (racingAlert .enabled)) rfl) rfl
  obtain ⟨l₃, h₃⟩ := hlisted.exists_of_runs (i := false) (Program.bind_done _).symm hdisable
  -- The tick counts the change of state that it saw, and stores the alert.
  have hcounted := h₃.step (i := true) (c := .count (.transition .enabled .active)) (x := ()) rfl
    ⟨trivial, rfl⟩
  have hstored := hcounted.step (i := true)
    (c := .update .alert "gen-0002" (racingAlert .active).payload) (x := .ok ())
    (Function.update_self _ _ _) ⟨trivial, .inl ⟨_, rfl, rfl, rfl⟩⟩
  exact ⟨_, _, _, hstored⟩

/-- The tick had read the alert before it was disabled. -/
theorem respects_of_interleaving_racing : ∃ l t, ∃ ps : Bool → Program (Except Error Unit),
    Interleaving racing ((Contents.sample (racingAlert .enabled)).site ∅)
      (l ++ [⟨true, ⟨.update .alert "gen-0002" (racingAlert .active).payload, .ok ()⟩,
        (Contents.sample (racingAlert .disabled)).site ∅, t⟩]) ps t ∧
    ∃ r ∈ l, r.actor = true ∧ ∃ key a, r.before.alert? key = some a ∧ a.id = "gen-0002" ∧
      a.isDisabled = false := by
  obtain ⟨l, t, ps, h⟩ := exists_interleaving_racing
  obtain ⟨m₁, r, m₂, key, a, b, rfl, hactor, hread, hid, -, -, htick, -⟩ :=
    respects_of_interleaving h rfl rfl
  have hr : r ∈ m₁ ++ r :: m₂ := List.mem_append_right m₁ List.mem_cons_self
  exact ⟨_, t, ps, h, r, hr, hactor, key, a, hread, hid, htick rfl⟩

/-- So not every interleaving respects what was done meanwhile, even from where tasks lead that run
one after the other. -/
theorem not_respects_of_interleaving : ¬ ∀ (tasks : Bool → Task) (s t : Site)
    (l : List (Event Bool)) (ps : Bool → Program (Except Error Unit)), Reached .none s →
    Interleaving tasks s l ps t → ∀ e ∈ l, e.Respects tasks := by
  intro h
  obtain ⟨l, t, ps, hinterleaving⟩ := exists_interleaving_racing
  have hreached : Reached .none ((Contents.sample (racingAlert .enabled)).site ∅) :=
    reached_sample Promise.permissive_none (fun _ => trivial) trivial (by decide)
  have hrespects := h racing _ t _ ps hreached hinterleaving _
    (List.mem_append_right l (List.mem_singleton_self _))
  have hstored : ((Contents.sample (racingAlert .disabled)).site ∅).alert? "gen-0002" =
      some (racingAlert .disabled) := by
    rw [Contents.alert?_site]
    exact Contents.find?_sample _
  have hdisabled := (hrespects "gen-0002" _ rfl ⟨rfl, rfl⟩ rfl _ hstored).1 rfl
  exact absurd hdisabled (by decide)

end AlertSync
