import AlertSync.Proofs.Generating
import AlertSync.Proofs.Scene
import AlertSync.Proofs.Success

/-!
# Generated files converge

Coalesced notifications and changes that nobody is notified of never leave a generated file stale.
Whenever its loop waits after a sync that succeeded, no notification waits, and no task is between
its write and its notification, the file is what it should be, given what is stored
(`read_eq_rendering`).

The proof follows the view of the topic. A sync is `OnTrack` for a view if, as long as the store
shows that view, it can end well only with the text of the view in the file; every sync is on track
for any view when it begins (`onTrack_sync`). As long as no notification waits and none is owed, the
sync that runs is on track for the present view, or the latest one has left the text of that view in
the file (`Scene.Current`). Every step keeps this (`Scene.invariant_step`), because a call of a task
leaves the view as it was, or is followed by a notification that is owed (`Program.Tidy`).
-/

namespace AlertSync

open Program (Always Runs)

/-! ## Syncs -/

variable {topic : Topic} {settings : SyncSettings} {v : View}

/-- How a loop is answered while the store shows a view. -/
def View.answering (topic : Topic) (v : View) : Answering FileSystem := fun c fs x fs' =>
  (∃ k w t, k.view topic = v ∧ (Contents.site k w).Effect c x t) ∧ fs.Effect c x fs'

/-- What is read then is what some contents with this view hold. -/
theorem View.reading (topic : Topic) (v : View) (fs : FileSystem) :
    Reading (v.answering topic) fs (fun k => k.view topic = v) where
  get := by
    rintro kind id x t ⟨⟨k, w, s, hview, rfl, rfl | ⟨e, rfl⟩⟩, rfl⟩
    · exact ⟨rfl, .inr ⟨k, hview, rfl⟩⟩
    · exact ⟨rfl, .inl ⟨e, rfl⟩⟩
  list := by
    rintro kind x t ⟨⟨k, w, s, hview, rfl, rfl | ⟨e, rfl⟩⟩, rfl⟩
    · exact ⟨rfl, .inr ⟨k, hview, rfl⟩⟩
    · exact ⟨rfl, .inl ⟨e, rfl⟩⟩

/-- Replacing a file fails, or the file reads as what was written. -/
theorem Artifact.always_write {path : FilePath} {text : String} {fs : FileSystem}
    {post : Except Error Unit → FileSystem → Prop} (hfail : ∀ e fs', post (.error e) fs')
    (hok : ∀ fs', fs'.read path = .ok text → post (.ok ()) fs') :
    Always (v.answering topic) post (write path text).outcome fs := by
  have hremove (e : Error) (fs' : FileSystem) : Always (v.answering topic) post
      (Program.ask (.removeFile path.temporary) >>= fun _ => pure (.error e)) fs' :=
    fun _ fs'' _ => hfail e fs''
  rintro written fs₁ ⟨-, ⟨rfl, hwrite⟩ | ⟨e, rfl⟩⟩
  · rintro moved fs₂ ⟨-, ⟨rfl, hmove⟩ | ⟨e, rfl⟩⟩
    · exact hok fs₂ (FileSystem.replaced_of_move hwrite hmove).read
    · exact hremove e fs₂
  · exact hremove e fs₁

/-- Whether a sync that ends so has left the text of a view in the file of the topic, if it ended
well. -/
def Shows (topic : Topic) (settings : SyncSettings) (v : View) (r : Except Error Outcome)
    (fs : FileSystem) : Prop :=
  ∀ o, r = .ok o → fs.read (topic.file settings) = .ok (v.text topic)

/-- Whether what is left of a sync can end well only with the text of a view in the file of the
topic, as long as the store shows that view. -/
def OnTrack (topic : Topic) (settings : SyncSettings) (v : View)
    (p : Program (Except Error Outcome)) (fs : FileSystem) : Prop :=
  Always (v.answering topic) (Shows topic settings v) p fs

/-- A sync that begins is on track. -/
theorem onTrack_sync (topic : Topic) (settings : SyncSettings) (v : View) (fs : FileSystem) :
    OnTrack topic settings v (topic.synchronizer.sync settings).outcome fs := by
  have hfail {topic : Topic} {e : Error} {fs : FileSystem} :
      Shows topic settings v (.error e) fs := fun _ h => nomatch h
  have hwrite {topic : Topic} {path : FilePath} {text : String} (hpath : path = topic.file settings)
      (htext : v.text topic = text) : Always (v.answering topic) (Shows topic settings v)
        (Artifact.write path text >>= fun _ => pure .reload : Operation Outcome).outcome fs := by
    rw [Operation.always_bind]
    apply Artifact.always_write
    · exact fun _ _ => hfail
    · intro fs' hread o _
      rw [← hpath, htext]
      exact hread
  cases topic with
  | alertChanged =>
    -- Each part may be read from other contents, but all of these have the view.
    show Always _ _ (Synchronizer.syncRoutes _).outcome _
    unfold Synchronizer.syncRoutes Synchronizer.buildRoutes
    simp only [bind_assoc, pure_bind]
    rw [Operation.always_bind]
    apply (View.reading .alertChanged v fs).always_alertConfig (fun _ => hfail)
    intro k₁ h₁
    apply Operation.always_bind.2
    apply (View.reading .alertChanged v fs).always_alerts (fun _ => hfail)
    intro k₂ h₂
    apply Operation.always_bind.2
    apply (View.reading .alertChanged v fs).always_recipients (fun _ => hfail)
    intro k₃ h₃
    exact hwrite rfl (Contents.text_alertChanged h₁ h₂ h₃)
  | metricsChanged =>
    show Always _ _ (Synchronizer.syncRules _).outcome _
    unfold Synchronizer.syncRules Synchronizer.buildRules
    simp only [bind_assoc, pure_bind]
    rw [Operation.always_bind]
    apply (View.reading .metricsChanged v fs).always_alerts (fun _ => hfail)
    intro k h
    exact hwrite rfl (Contents.text_metricsChanged h)

/-- A sync changes neither stored objects nor silences. -/
theorem calls_sync (topic : Topic) (settings : SyncSettings) :
    (topic.synchronizer.sync settings).outcome.Calls (·.changesSite = false) := by
  have hfile : topic.synchronizer.file? settings = some (topic.file settings) := by
    cases topic <;> rfl
  exact (Synchronizer.calls_sync hfile).mono Call.changesSite_of_isGenerating

/-- What follows a sync changes nothing. -/
theorem Synchronizer.calls_conclude (x : Synchronizer) (delay : Nat) (r : Except Error Outcome) :
    (x.conclude delay r).Calls fun c => c.changesSite = false ∧ c.writesFile = false := by
  have hrecord (result : CycleEnd) : (x.record result).Calls fun c =>
      c.changesSite = false ∧ c.writesFile = false := ⟨⟨rfl, rfl⟩, fun _ => trivial⟩
  have hreload : x.reloadNow.Calls fun c => c.changesSite = false ∧ c.writesFile = false := by
    apply Program.calls_bind
    · cases x with
      | route | rule | target => exact ⟨⟨rfl, rfl⟩, fun _ => trivial⟩
      | state => trivial
    · rintro (e | _) <;> exact hrecord _
  obtain e | _ | _ := r
  · exact hrecord .failure
  · show (x.reloadAfter delay).Calls _
    unfold reloadAfter
    split
    · exact hreload
    · refine ⟨⟨rfl, rfl⟩, ?_⟩
      rintro (_ | _)
      · trivial
      · exact hreload
  · exact hrecord .success

/-! ## The invariant -/

/-- Whether a task is between its write and its notification of a topic. -/
def Activity.Owes (topic : Topic) (a : Activity) : Prop := a.wrote = true ∧ a.rest.Owes topic

/-- Whether a stage of the loop for a topic leaves the store alone, and files too once the sync has
ended. -/
def Stage.Spares : Stage → Prop
  | .syncing p => p.Calls (·.changesSite = false)
  | .concluding p => p.Calls fun c => c.changesSite = false ∧ c.writesFile = false
  | .waiting | .finished => True

namespace Scene

/-- Whether another sync is due: a notification waits, or is owed. -/
def IsDue (topic : Topic) (s : Scene) : Prop :=
  (s.ground.bus.slot topic).full = true ∨ ∃ a ∈ s.activities, a.Owes topic

/-- Whether what the loop does or did last is made for a view. -/
def Current (topic : Topic) (settings : SyncSettings) (v : View) (s : Scene) : Prop :=
  match s.stage with
  | .syncing p => OnTrack topic settings v p s.ground.files
  | .waiting | .concluding _ => ∀ r, s.latest = some r → Shows topic settings v r s.ground.files
  | .finished => True

/-- What holds of every scene, given the contents and the silences. -/
structure Invariant (topic : Topic) (settings : SyncSettings) (s : Scene) (k : Contents)
    (w : Finset (String × String)) : Prop where
  site : s.ground.site = k.site w
  active : ∀ a, s.active = some a → a.rest.Tidy topic k w
  leaving : ∀ a ∈ s.leaving, a.rest.Calls (·.isNotify = true)
  stage : s.stage.Spares
  subscribed : s.stage ≠ .finished → (s.ground.bus.slot topic).subscribed = true
  current : ¬ s.IsDue topic → s.Current topic settings (k.view topic)

variable {s t : Scene} {k k' : Contents} {w w' : Finset (String × String)} {delay : Nat}

/-- A scene in which nothing has happened satisfies the invariant. -/
theorem invariant_start (topic : Topic) (settings : SyncSettings) (files : FileSystem) :
    (start files).Invariant topic settings .empty ∅ where
  site := rfl
  active _ h := nomatch h
  leaving _ h := nomatch h
  stage := trivial
  subscribed _ := by cases topic <;> rfl
  current _ _ h := nomatch h

/-- Calls keep the subscription. -/
theorem Invariant.subscribed_of_call (h : s.Invariant topic settings k w) {c : Call}
    {x : c.Answer} {g : Ground} (hx : Ground.answering c s.ground x g)
    (hstage : s.stage ≠ .finished) : (g.bus.slot topic).subscribed = true := by
  rw [hx.2.2, Bus.subscribed_after]
  exact h.subscribed hstage

/-- A call after which no notification waits has not notified the topic. -/
theorem Invariant.slot_eq (h : s.Invariant topic settings k w) {c : Call} {x : c.Answer}
    {g : Ground} (hx : Ground.answering c s.ground x g) (hstage : s.stage ≠ .finished)
    (hempty : (g.bus.slot topic).full ≠ true) :
    c ≠ .notify topic ∧ g.bus.slot topic = s.ground.bus.slot topic := by
  have hne : c ≠ .notify topic := by
    rintro rfl
    apply hempty
    rw [hx.2.2, Bus.slot_after_notify]
    show ((s.ground.bus.slot topic).full || (s.ground.bus.slot topic).subscribed) = true
    rw [h.subscribed hstage, Bool.or_true]
  refine ⟨hne, ?_⟩
  rw [hx.2.2, Bus.slot_after_of_ne hne]

/-- A call of a task after which no sync is due has left everything current. -/
theorem Invariant.current_of_call (h : s.Invariant topic settings k w) {c : Call} {x : c.Answer}
    {next : c.Answer → Program (Except Error Unit)} {wrote : Bool} {g : Ground}
    {active : Option Activity} {leaving : List Activity}
    (hx : Ground.answering c s.ground x g) (hfile : c.writesFile = false)
    (hview : k'.view topic = k.view topic ∨ c.wrote x = true ∧ (next x).Owes topic)
    (hdone : ⟨next x, wrote || c.wrote x⟩ ∈ active.toList ++ leaving)
    (hothers : ∀ a ∈ s.activities, a = ⟨.call c next, wrote⟩ ∨ a ∈ active.toList ++ leaving)
    (hdue : ¬ IsDue topic { s with ground := g, active := active, leaving := leaving }) :
    Current topic settings (k'.view topic)
      { s with ground := g, active := active, leaving := leaving } := by
  have hfiles : g.files = s.ground.files := hx.2.1.eq_of_writesFile hfile
  by_cases hfinished : s.stage = .finished
  · unfold Current
    rw [hfinished]
    trivial
  · -- As nothing waits now, the call was no notification of the topic.
    obtain ⟨hne, hslot⟩ := h.slot_eq hx hfinished fun hfull => hdue (.inl hfull)
    have hnothing : ¬ ((wrote || c.wrote x) = true ∧ (next x).Owes topic) :=
      fun howes => hdue (.inr ⟨_, hdone, howes⟩)
    -- What was owed before the call would be owed still.
    have hbefore : ¬ s.IsDue topic := by
      rintro (hfull | ⟨a, ha, howes⟩)
      · rw [← hslot] at hfull
        exact hdue (.inl hfull)
      · obtain rfl | ha := hothers a ha
        · obtain ⟨hwrote, hc | hnext⟩ := howes
          · exact hne hc
          · change wrote = true at hwrote
            rw [hwrote, Bool.true_or] at hnothing
            exact hnothing ⟨rfl, hnext x⟩
        · exact hdue (.inr ⟨a, ha, howes⟩)
    -- Had the call changed the view, its task would owe a notification now.
    have hsame : k'.view topic = k.view topic := by
      obtain hsame | ⟨hwrote, howes⟩ := hview
      · exact hsame
      · rw [hwrote, Bool.or_true] at hnothing
        exact absurd ⟨rfl, howes⟩ hnothing
    have hcurrent := h.current hbefore
    unfold Current at hcurrent ⊢
    rw [hfiles, hsame]
    exact hcurrent

/-- A call of the task that has the store keeps the invariant, for other contents. -/
theorem Invariant.act (h : s.Invariant topic settings k w) {c : Call} {x : c.Answer}
    {next : c.Answer → Program (Except Error Unit)} {wrote : Bool} {g : Ground}
    (hactive : s.active = some ⟨.call c next, wrote⟩) (hx : Ground.answering c s.ground x g) :
    ∃ k' w', Invariant topic settings
      { s with ground := g, active := some ⟨next x, wrote || c.wrote x⟩ } k' w' := by
  obtain ⟨hfile, hcalls⟩ := h.active _ hactive
  have heffect := hx.1
  rw [h.site] at heffect
  obtain ⟨k', w', hsite, htidy, hview⟩ := hcalls x g.site heffect
  refine ⟨k', w', hsite, ?_, h.leaving, h.stage, h.subscribed_of_call hx, ?_⟩
  · rintro a ⟨⟩
    exact htidy
  · apply h.current_of_call hx hfile hview
    · exact List.mem_cons_self
    · intro a ha
      rw [activities, hactive] at ha
      obtain rfl | ha := List.mem_cons.1 ha
      · exact .inl rfl
      · exact .inr (List.mem_cons_of_mem _ ha)

/-- A notification by a task that has left the store keeps the invariant. -/
theorem Invariant.notify (h : s.Invariant topic settings k w) {l l' : List Activity} {c : Call}
    {x : c.Answer} {next : c.Answer → Program (Except Error Unit)} {wrote : Bool} {g : Ground}
    (hleaving : s.leaving = l ++ ⟨.call c next, wrote⟩ :: l')
    (hx : Ground.answering c s.ground x g) :
    Invariant topic settings
      { s with ground := g, leaving := l ++ ⟨next x, wrote || c.wrote x⟩ :: l' } k w := by
  obtain ⟨hc, hnext⟩ := h.leaving ⟨.call c next, wrote⟩ (by simp [hleaving])
  have hsite : g.site = s.ground.site := hx.1.eq_of_changesSite (Call.changesSite_of_isNotify c hc)
  have hfile : c.writesFile = false := Call.writesFile_of_isNotify c hc
  refine ⟨hsite.trans h.site, h.active, ?_, h.stage, h.subscribed_of_call hx, ?_⟩
  · intro a ha
    obtain ha | rfl | ha := by simpa using ha
    · exact h.leaving a (by simp [hleaving, ha])
    · exact hnext x
    · exact h.leaving a (by simp [hleaving, ha])
  · apply h.current_of_call hx hfile (.inl rfl)
    · exact List.mem_append_right _ (List.mem_append_right _ List.mem_cons_self)
    · intro a ha
      rw [activities, hleaving, List.mem_append, List.mem_append, List.mem_cons] at ha
      rw [List.mem_append, List.mem_append, List.mem_cons]
      tauto

/-- A task that begins, leaves the store or ends keeps the invariant, if no notification is owed
less for that. -/
theorem Invariant.of_activities (h : s.Invariant topic settings k w) {active : Option Activity}
    {leaving : List Activity} (hactive : ∀ a, active = some a → a.rest.Tidy topic k w)
    (hleaving : ∀ a ∈ leaving, a.rest.Calls (·.isNotify = true))
    (howes : ∀ a ∈ s.activities, a.Owes topic → a ∈ active.toList ++ leaving) :
    Invariant topic settings { s with active := active, leaving := leaving } k w := by
  refine ⟨h.site, hactive, hleaving, h.stage, h.subscribed, ?_⟩
  intro hdue
  apply h.current
  rintro (hfull | ⟨a, ha, ha'⟩)
  · exact hdue (.inl hfull)
  · exact hdue (.inr ⟨a, howes a ha ha', ha'⟩)

/-- A notification that the loop takes keeps the invariant: the sync that begins is on track. -/
theorem Invariant.wake (h : s.Invariant topic settings k w) (hstage : s.stage = .waiting) :
    Invariant topic settings
      { s with
        ground := { s.ground with bus := s.ground.bus.receive topic }
        stage := .syncing (topic.synchronizer.sync settings).outcome } k w where
  site := h.site
  active := h.active
  leaving := h.leaving
  stage := calls_sync topic settings
  subscribed _ := by
    have hsubscribed := h.subscribed (by rw [hstage]; exact nofun)
    show ((s.ground.bus.modify topic Slot.take).slot topic).subscribed = true
    rw [Bus.slot_modify, if_pos rfl]
    exact hsubscribed
  current _ := onTrack_sync topic settings _ _

/-- A call of the loop changes neither what is stored nor who is to be notified. -/
theorem Invariant.of_loop (h : s.Invariant topic settings k w) {c : Call} {x : c.Answer}
    {g : Ground} {stage : Stage} (hx : Ground.answering c s.ground x g)
    (hstage : s.stage ≠ .finished) (hc : c.changesSite = false) (hspares : stage.Spares)
    (hcurrent : s.Current topic settings (k.view topic) →
      Current topic settings (k.view topic) { s with ground := g, stage := stage }) :
    Invariant topic settings { s with ground := g, stage := stage } k w := by
  refine ⟨(hx.1.eq_of_changesSite hc).trans h.site, h.active, h.leaving, hspares, ?_, ?_⟩
  · exact fun _ => h.subscribed_of_call hx hstage
  · intro hdue
    obtain ⟨-, hslot⟩ := h.slot_eq hx hstage fun hfull => hdue (.inl hfull)
    apply hcurrent
    apply h.current
    unfold IsDue at hdue ⊢
    rw [hslot] at hdue
    exact hdue

/-- Every step keeps the invariant. -/
theorem invariant_step (h : s.Invariant topic settings k w)
    (hstep : Step topic settings delay s t) : ∃ k' w', t.Invariant topic settings k' w' := by
  cases hstep with
  | begin task hfree =>
    refine ⟨k, w, h.of_activities ?_ h.leaving ?_⟩
    · rintro a ⟨⟩
      exact task.tidy topic k w
    · intro a ha _
      rw [activities, hfree] at ha
      exact List.mem_cons_of_mem _ ha
  | act hactive hx => exact h.act hactive hx
  | release hactive hrest =>
    refine ⟨k, w, h.of_activities nofun ?_ ?_⟩
    · intro a ha
      obtain rfl | ha := List.mem_cons.1 ha
      · exact hrest
      · exact h.leaving a ha
    · intro a ha _
      rw [activities, hactive] at ha
      exact ha
  | notify hleaving hx => exact ⟨k, w, h.notify hleaving hx⟩
  | @depart l l' r wrote hleaving =>
    refine ⟨k, w, h.of_activities h.active ?_ ?_⟩
    · intro a ha
      apply h.leaving
      rw [hleaving]
      exact (List.sublist_cons_self _ l').append_left l |>.subset ha
    · intro a ha howes
      rw [activities, hleaving, List.mem_append, List.mem_append, List.mem_cons] at ha
      rw [List.mem_append, List.mem_append]
      obtain ha | ha | rfl | ha := ha
      · exact .inl ha
      · exact .inr (.inl ha)
      · -- What has ended owes nothing.
        exact howes.2.elim
      · exact .inr (.inr ha)
  | wake hstage _ => exact ⟨k, w, h.wake hstage⟩
  | @sync c next x g hstage hx =>
    have hspares := h.stage
    rw [hstage] at hspares
    obtain ⟨hc, hnext⟩ := hspares
    -- The call was answered from contents that have the view.
    refine ⟨k, w, h.of_loop hx (hstage ▸ nofun) hc (hnext x) ?_⟩
    intro hcurrent
    rw [Current, hstage] at hcurrent
    have heffect := hx.1
    rw [h.site] at heffect
    exact hcurrent x g.files ⟨⟨k, w, g.site, rfl, heffect⟩, hx.2.1⟩
  | @synced r hstage =>
    refine ⟨k, w, h.site, h.active, h.leaving, Synchronizer.calls_conclude _ _ _, ?_, ?_⟩
    · exact fun _ => h.subscribed (hstage ▸ nofun)
    · intro hdue
      have hcurrent := h.current hdue
      rw [Current, hstage] at hcurrent
      rintro _ ⟨⟩
      exact hcurrent
  | @conclude c next x g hstage hx =>
    have hspares := h.stage
    rw [hstage] at hspares
    obtain ⟨⟨hc, hfile⟩, hnext⟩ := hspares
    refine ⟨k, w, h.of_loop hx (hstage ▸ nofun) hc (hnext x) ?_⟩
    intro hcurrent r hlatest
    rw [Current, hstage] at hcurrent
    show Shows topic settings _ r g.files
    rw [hx.2.1.eq_of_writesFile hfile]
    exact hcurrent r hlatest
  | concluded hstage =>
    refine ⟨k, w, h.site, h.active, h.leaving, trivial, ?_, ?_⟩
    · exact fun _ => h.subscribed (hstage ▸ nofun)
    · intro hdue
      have hcurrent := h.current hdue
      rw [Current, hstage] at hcurrent
      exact hcurrent
  | stop _ =>
    exact ⟨k, w, h.site, h.active, h.leaving, trivial, fun hne => absurd rfl hne,
      fun _ => trivial⟩

/-- The invariant holds of every scene that steps lead to. -/
theorem exists_invariant (h : Reachable topic settings delay s) :
    ∃ k w, s.Invariant topic settings k w := by
  induction h with
  | start files => exact ⟨_, _, invariant_start topic settings files⟩
  | step _ hstep ih =>
    obtain ⟨k, w, hinv⟩ := ih
    exact invariant_step hinv hstep

/-- Whenever the loop waits after a sync that succeeded, no notification waits, and no task is
between its write and its notification, the file is what it should be, given what is stored. -/
theorem read_eq_rendering {o : Outcome} (h : Reachable topic settings delay s)
    (hstage : s.stage = .waiting) (hlatest : s.latest = some (.ok o))
    (hempty : (s.ground.bus.slot topic).full = false)
    (hquiet : ∀ a ∈ s.activities, ¬ a.Owes topic) :
    ∃ text, topic.rendering s.ground.site.objects = .ok text ∧
      s.ground.files.read (topic.file settings) = .ok text := by
  obtain ⟨k, w, hinv⟩ := exists_invariant h
  have hdue : ¬ s.IsDue topic := by
    rintro (hfull | ⟨a, ha, howes⟩)
    · exact absurd hfull (hempty ▸ Bool.false_ne_true)
    · exact hquiet a ha howes
  have hcurrent := hinv.current hdue
  rw [Current, hstage] at hcurrent
  refine ⟨(k.view topic).text topic, ?_, hcurrent _ hlatest o rfl⟩
  rw [hinv.site, Contents.objects_site, Contents.rendering_objects]

/-! ## A loop that waits after a sync -/

/-- The contents can be read on a ground where they are stored. -/
theorem readable_ground (k : Contents) (w : Finset (String × String)) (files : FileSystem)
    (bus : Bus) : Readable Ground.answering ⟨k.site w, files, bus⟩ k where
  get _ _ := ⟨⟨rfl, .inl rfl⟩, rfl, rfl⟩
  list _ := ⟨⟨rfl, .inl rfl⟩, rfl, rfl⟩

/-- The routing tree is generated if its file can be replaced. -/
theorem runs_syncRoutes {path : FilePath} {text : String} {fs fs₁ fs₂ : FileSystem} {bus : Bus}
    (htext : text = Yaml.text (Yaml.ofTree
      (RoutingConfig.build k.settings k.alertList k.recipientList).tree))
    (hwrite : fs.write path.temporary text = .ok fs₁)
    (hmove : fs₁.move path.temporary path = .ok fs₂) :
    (Synchronizer.syncRoutes path).outcome.Runs Ground.answering ⟨k.site w, fs, bus⟩ (.ok .reload)
      ⟨k.site w, fs₂, bus⟩ := by
  have hreplace : (Artifact.write path text).outcome.Runs Ground.answering
      ⟨k.site w, fs, bus⟩ (.ok ()) ⟨k.site w, fs₂, bus⟩ :=
    ⟨.ok (), ⟨k.site w, fs₁, bus⟩, ⟨rfl, .inl ⟨rfl, hwrite⟩, rfl⟩,
      .ok (), ⟨k.site w, fs₂, bus⟩, ⟨rfl, .inl ⟨rfl, hmove⟩, rfl⟩, rfl, rfl⟩
  unfold Synchronizer.syncRoutes
  apply Operation.runs_bind (readable_ground k w fs bus).runs_buildRoutes
  rw [← htext]
  exact Operation.runs_bind hreplace ⟨rfl, rfl⟩

/-- Where files are generated. -/
def sampleSettings : SyncSettings := ⟨["routes.yml"], ["rules.yml"], ["scrape.yml"], .standard⟩

/-- A recipient and nothing else is stored. -/
def sampleContents : Contents := Contents.empty.put (.recipient (.sample "r1"))

/-- The routing tree for that. -/
def sampleText : String :=
  Yaml.text (Yaml.ofTree (RoutingConfig.build sampleContents.settings sampleContents.alertList
    sampleContents.recipientList).tree)

/-- The file while its contents are prepared beside it. -/
def sampleFiles : FileSystem := FileSystem.empty.put ["routes.yml.tmp"] (.file sampleText)

/-- A recipient was created, and the loop has generated the routing tree since. -/
def sample : Scene where
  ground := ⟨sampleContents.site ∅,
    (sampleFiles.drop ["routes.yml.tmp"]).put ["routes.yml"] (.file sampleText),
    (Bus.fresh.notify .alertChanged).receive .alertChanged⟩
  active := none
  leaving := []
  stage := .waiting
  latest := some (.ok .reload)

/-- The recipient can be created, and the topic be notified. -/
theorem runs_createRecipient_sample (files : FileSystem) :
    (Task.request (.createRecipient (.sample ""))).program.Runs Ground.answering
      ⟨.empty, files, .fresh⟩ (.ok ())
      ⟨sampleContents.site ∅, files, Bus.fresh.notify .alertChanged⟩ := by
  have hvalid : (Recipient.sample "").validate = .ok () := by decide
  have hcreate : Site.empty.Writes
      (Objects.empty.create .recipient "r1" (Recipient.sample "r1").payload) (.ok ())
      (sampleContents.site ∅) := .inl ⟨_, rfl, rfl, rfl⟩
  show Runs _ (Request.operation _).outcome _ _ _
  rw [Request.operation_eq, Request.draft, hvalid]
  refine ⟨"r1", ⟨.empty, files, .fresh⟩, ⟨rfl, rfl, rfl⟩, ?_⟩
  refine ⟨.ok (), ⟨sampleContents.site ∅, files, .fresh⟩, ⟨hcreate, rfl, rfl⟩, ?_⟩
  exact ⟨(), ⟨sampleContents.site ∅, files, Bus.fresh.notify .alertChanged⟩, ⟨rfl, rfl, rfl⟩,
    rfl, rfl⟩

/-- The sample is reachable. -/
theorem reachable_sample : Reachable .alertChanged sampleSettings 0 sample := by
  have hstart : Reachable .alertChanged sampleSettings 0 (start .empty) := .start .empty
  have hcreated := hstart.task_runs rfl (runs_createRecipient_sample .empty)
  have htemporary : FilePath.temporary ["routes.yml"] = ["routes.yml.tmp"] := by decide
  have hwrite : FileSystem.empty.write (FilePath.temporary ["routes.yml"]) sampleText =
      .ok sampleFiles := by
    rw [htemporary]
    rfl
  have hmove : sampleFiles.move (FilePath.temporary ["routes.yml"]) ["routes.yml"] =
      .ok sample.ground.files := by
    rw [htemporary]
    rfl
  have hsync : (Synchronizer.syncRoutes ["routes.yml"]).outcome.Runs Ground.answering
      ⟨sampleContents.site ∅, .empty, sample.ground.bus⟩ (.ok .reload) sample.ground :=
    runs_syncRoutes rfl hwrite hmove
  have hreload : (Synchronizer.conclude .route 0 (.ok .reload)).Runs Ground.answering
      sample.ground () sample.ground :=
    ⟨.ok (), _, ⟨rfl, rfl, rfl⟩, (), _, ⟨rfl, rfl, rfl⟩, rfl, rfl⟩
  exact hcreated.cycle_runs rfl rfl hsync hreload

/-- In the sample the file is what it should be. -/
theorem read_eq_rendering_sample : Reachable .alertChanged sampleSettings 0 sample ∧
    sample.stage = .waiting ∧ sample.latest = some (.ok .reload) ∧
    (sample.ground.bus.slot .alertChanged).full = false ∧
    (∀ a ∈ sample.activities, ¬ a.Owes .alertChanged) ∧
    ∃ text, Topic.alertChanged.rendering sample.ground.site.objects = .ok text ∧
      sample.ground.files.read ["routes.yml"] = .ok text := by
  have hquiet : ∀ a ∈ sample.activities, ¬ a.Owes .alertChanged := nofun
  exact ⟨reachable_sample, rfl, rfl, rfl, hquiet,
    read_eq_rendering reachable_sample rfl rfl rfl hquiet⟩

end Scene

end AlertSync
