import AlertSync.Proofs.Reconcile
import AlertSync.Proofs.Success

/-!
# Which silences are left over

The manager silences an alert at the alerting backend by its id and environment. A silence that is
active should belong to an alert that is stored, suppressed, and in that environment; else it mutes
what nobody means to be muted (`Site.Kept`). Of all tasks only two break that: an update that moves
a silenced alert to another environment, which leaves its silence behind in the old one, and
silencing an alert whose new state can then not be stored (`Task.Strands`). Along a run the silences
are kept exactly until such a task comes (`kept_iff_not_strands`).

The alerting backend is taken to do what it is asked to: adding and removing silences succeeds, and
what it reports as live is suppressed where a silence is active.
-/

namespace AlertSync

/-- The promise of an alerting backend that keeps a set of silences. -/
def Promise.silencing : Promise
  | .addSilence _, _, x => x = .ok ()
  | .removeSilence _, _, x => x = .ok ()
  | .liveAlerts, s, x => ∀ live, x = .ok live → ∀ l ∈ live, ∀ id e, l.label? "alert_id" = some id →
      l.label? "environment" = some e → (id, e) ∈ s.silences → l.isSuppressed = true
  | _, _, _ => True

/-- Whether every active silence belongs to a stored alert that is suppressed in the environment of
the silence. -/
def Site.Kept (s : Site) : Prop :=
  ∀ id e, (id, e) ∈ s.silences → ∃ payload a, s.objects.alerts.find? id = some payload ∧
    Alert.ofPayload payload = .ok a ∧ a.id = id ∧ a.environment = e ∧ a.state = .suppressed

/-- Whether a task that ends so leaves a silence behind: it moves a silenced alert to another
environment, or fails after it has silenced an alert. -/
def Task.Strands (task : Task) (result : Except Error Unit) (s t : Site) : Prop :=
  match task, result with
  | .request (.updateAlert id a), .ok _ => ∃ e, (id, e) ∈ s.silences ∧ e ≠ a.environment
  | .request (.act .silence _), .error _ => t.silences ≠ s.silences
  | _, _ => False

namespace Contents

/-- Whether every silence belongs to an alert of the contents. -/
def Silenced (k : Contents) (w : Finset (String × String)) : Prop :=
  ∀ id e, (id, e) ∈ w →
    ∃ a, k.alerts.find? id = some a ∧ a.environment = e ∧ a.state = .suppressed

variable {k k' : Contents} {w w' : Finset (String × String)}

/-- At a site of contents the silences are kept if they belong to alerts of the contents. -/
theorem kept_site : (k.site w).Kept ↔ k.Silenced w := by
  constructor
  · intro h id e hmem
    obtain ⟨payload, a, hfind, hread, -, henvironment, hstate⟩ := h id e hmem
    change (k.alerts.map Alert.payload).find? id = some payload at hfind
    rw [SortedMap.find?_map, Option.map_eq_some_iff] at hfind
    obtain ⟨b, hb, rfl⟩ := hfind
    rw [Alert.ofPayload_payload] at hread
    obtain rfl := Except.ok.inj hread
    exact ⟨b, hb, henvironment, hstate⟩
  · intro h id e hmem
    obtain ⟨a, ha, henvironment, hstate⟩ := h _ _ hmem
    refine ⟨a.payload, a, ?_, a.ofPayload_payload, k.id_of_alert ha, henvironment, hstate⟩
    show (k.alerts.map Alert.payload).find? id = _
    rw [SortedMap.find?_map, ha]
    rfl

/-- Silences may go. -/
theorem Silenced.subset (h : k.Silenced w) (hsub : w' ⊆ w) : k.Silenced w' :=
  fun id e hmem => h id e (hsub hmem)

/-- Only the silenced alerts matter. -/
theorem Silenced.congr (h : k.Silenced w)
    (hsame : ∀ id e, (id, e) ∈ w → k'.alerts.find? id = k.alerts.find? id) : k'.Silenced w := by
  intro id e hmem
  rw [hsame id e hmem]
  exact h id e hmem

/-- An alert with a silence is suppressed, and in the environment of that. -/
theorem Silenced.of_mem (h : k.Silenced w) {id e : String} {a : Alert}
    (hfound : k.alerts.find? id = some a) (hmem : (id, e) ∈ w) :
    a.environment = e ∧ a.state = .suppressed := by
  obtain ⟨b, hb, hb'⟩ := h id e hmem
  rw [hfound] at hb
  obtain rfl := Option.some.inj hb
  exact hb'

/-- An alert that is not suppressed has no silence. -/
theorem Silenced.not_mem (h : k.Silenced w) {id : String} {a : Alert}
    (hfound : k.alerts.find? id = some a) (hstate : a.state ≠ .suppressed) (e : String) :
    (id, e) ∉ w :=
  fun hmem => hstate (h.of_mem hfound hmem).2

/-- An alert may be put under an id that has no silence. -/
theorem Silenced.put (h : k.Silenced w) {a : Alert} (hfree : ∀ e, (a.id, e) ∉ w) :
    (k.put (.alert a)).Silenced w := by
  apply h.congr
  intro id e hmem
  have hne : id ≠ a.id := fun heq => hfree e (heq ▸ hmem)
  show (k.alerts.insert a.id a).find? id = _
  rw [SortedMap.find?_insert, if_neg hne]

/-- An alert may be put in place of one that is not suppressed. -/
theorem Silenced.put_of_ne (h : k.Silenced w) {id : String} {a : Alert} {b : Alert}
    (hfound : k.alerts.find? id = some a) (hstate : a.state ≠ .suppressed) (hid : b.id = a.id) :
    (k.put (.alert b)).Silenced w := by
  apply h.put
  rw [hid, k.id_of_alert hfound]
  exact h.not_mem hfound hstate

/-- An alert may go that is not suppressed. -/
theorem Silenced.eraseAlert (h : k.Silenced w) {id : String} {a : Alert}
    (hfound : k.alerts.find? id = some a) (hstate : a.state ≠ .suppressed) :
    (k.eraseAlert id).Silenced w := by
  apply h.congr
  intro x e hmem
  have hne : x ≠ id := by
    rintro rfl
    exact h.not_mem hfound hstate e hmem
  show (k.alerts.erase id).find? x = _
  rw [SortedMap.find?_erase, if_neg hne]

/-- An alert may be silenced when it becomes suppressed. -/
theorem Silenced.silence (h : k.Silenced w) {id : String} {a : Alert}
    (hfound : k.alerts.find? id = some a) (hstate : a.state ≠ .suppressed) :
    (k.put (.alert { a with state := .suppressed })).Silenced (insert a.silence w) := by
  intro x e hmem
  obtain heq | hmem := Finset.mem_insert.1 hmem
  · obtain ⟨rfl, rfl⟩ := Prod.mk.inj heq
    refine ⟨{ a with state := .suppressed }, ?_, rfl, rfl⟩
    show (k.alerts.insert a.id _).find? a.id = _
    rw [SortedMap.find?_insert, if_pos rfl]
  · exact h.put_of_ne hfound hstate (b := { a with state := .suppressed }) rfl x e hmem

/-- An alert without its silence may be put in any state. -/
theorem Silenced.unsilence (h : k.Silenced w) {id : String} {a b : Alert}
    (hfound : k.alerts.find? id = some a) (hid : b.id = a.id) :
    (k.put (.alert b)).Silenced (w.erase a.silence) := by
  have hrest : k.Silenced (w.erase a.silence) := h.subset (Finset.erase_subset _ _)
  apply hrest.put
  intro e hmem
  obtain ⟨hne, hmem⟩ := Finset.mem_erase.1 hmem
  -- The alert's only silence is that in its own environment.
  have henvironment := (h.of_mem hfound (by rwa [hid, k.id_of_alert hfound] at hmem)).1
  exact hne (by rw [hid, ← henvironment]; rfl)

/-- A silenced alert that is updated keeps its silences if it stays in their environment. -/
theorem Silenced.update_iff (h : k.Silenced w) {id : String} {current b : Alert}
    (hfound : k.alerts.find? id = some current) (hid : b.id = current.id)
    (hstate : b.state = current.state) :
    (k.put (.alert b)).Silenced w ↔ ¬ ∃ e, (id, e) ∈ w ∧ e ≠ b.environment := by
  have hput (x : String) : (k.put (.alert b)).alerts.find? x =
      if x = id then some b else k.alerts.find? x := by
    show (k.alerts.insert b.id b).find? x = _
    rw [SortedMap.find?_insert, hid, k.id_of_alert hfound]
  constructor
  · rintro h' ⟨e, hmem, hne⟩
    obtain ⟨c, hc, henvironment, -⟩ := h' _ _ hmem
    rw [hput, if_pos rfl] at hc
    obtain rfl := Option.some.inj hc
    exact hne henvironment.symm
  · -- A silence of another alert is not touched; one of this alert is in its environment.
    intro hnone x e hmem
    obtain ⟨c, hc, henvironment, hsuppressed⟩ := h _ _ hmem
    rw [hput]
    split
    · next heq =>
      subst heq
      rw [hfound] at hc
      obtain rfl := Option.some.inj hc
      refine ⟨b, rfl, ?_, hstate.trans hsuppressed⟩
      by_contra hne
      exact hnone ⟨e, hmem, fun heq => hne heq.symm⟩
    · exact ⟨c, hc, henvironment, hsuppressed⟩

/-! ## Ticks -/

/-- Settling an alert keeps the silences, if what is reported of silenced alerts is suppressed. -/
theorem Silenced.settling {live : List LiveAlert} (h : k.Silenced w)
    (hlive : ∀ l ∈ live, ∀ id e, l.label? "alert_id" = some id → l.label? "environment" = some e →
      (id, e) ∈ w → l.isSuppressed = true)
    (hstep : Synchronizer.Settling .silencing live (k, w) (k', w')) :
    k'.Silenced w' ∧ w' ⊆ w := by
  obtain ⟨a, hfound, -, hsettled⟩ := hstep
  have hsub (hsilences : (a.reconcile live).Unsilenced .silencing k w w') : w' ⊆ w := by
    unfold Reconciliation.Unsilenced at hsilences
    split at hsilences
    · obtain rfl | ⟨rfl, -⟩ := hsilences
      · exact Finset.erase_subset _ _
      · exact Finset.Subset.refl _
    · exact Finset.subset_of_eq hsilences
  cases hsettled with
  | unchanged _ => exact ⟨h, Finset.Subset.refl _⟩
  | unwritten _ hsilences => exact ⟨h.subset (hsub hsilences), hsub hsilences⟩
  | written _ hsilences _ =>
    refine ⟨?_, hsub hsilences⟩
    cases hleft : (a.reconcile live).removeSilence with
    | true =>
      -- The silence is removed for certain before the alert is written.
      unfold Reconciliation.Unsilenced at hsilences
      rw [if_pos hleft] at hsilences
      obtain rfl | ⟨-, e, hfails⟩ := hsilences
      · exact h.unsilence (a := a) (b := (a.reconcile live).alert) hfound rfl
      · nomatch (show Except.error e = .ok () from hfails)
    | false =>
      unfold Reconciliation.Unsilenced at hsilences
      rw [hleft] at hsilences
      obtain rfl : w' = w := hsilences
      by_cases hmem : (a.id, a.environment) ∈ w'
      · -- The alert is silenced, and no silence of its own was left over: it stays suppressed.
        have hstate := (h.of_mem hfound hmem).2
        have hmuted : ∀ l ∈ live, l.isAbout a = true → l.isSuppressed = true := by
          intro l hl habout
          obtain ⟨hid, henvironment⟩ := (l.isAbout_iff a).1 habout
          exact hlive l hl _ _ hid henvironment hmem
        have hkept : (a.reconcile live).alert.state = a.state := by
          have hstays := Alert.state_reconcile_of_suppressed hstate hmuted
          rw [hleft] at hstays
          rw [hstate]
          exact hstays.resolve_left Bool.false_ne_true
        apply (h.update_iff (b := (a.reconcile live).alert) hfound rfl hkept).2
        rintro ⟨e, he, hne⟩
        exact hne (h.of_mem hfound he).1.symm
      · apply h.put
        intro e he
        obtain rfl := (h.of_mem hfound he).1
        exact hmem he

/-! ## Requests -/

/-- A request that succeeds keeps the silences unless it strands one. -/
theorem Silenced.edit_iff (h : k.Silenced w) {q : Request} {d : Draft}
    (hyields : q.Yields .silencing k w d w') (hadmitted : d.edit.Admitted k) :
    (d.edit.apply k).Silenced w' ↔
      ¬ (Task.request q).Strands (.ok ()) (k.site w) ((d.edit.apply k).site w') := by
  cases hyields with
  | @createAlert a r id _ _ _ =>
    refine iff_of_true (h.put ?_) not_false
    intro e hmem
    -- A silenced alert is stored, so its id is not a new one.
    obtain ⟨b, hb, -⟩ := h id e hmem
    have hfree : (k.alerts.map Alert.payload).contains id = false := hadmitted
    rw [SortedMap.contains_eq_isSome, SortedMap.find?_map, hb] at hfree
    nomatch hfree
  | updateAlert hfound _ _ => exact h.update_iff hfound rfl rfl
  | enable hfound hstate | disable hfound hstate =>
    refine iff_of_true (h.put_of_ne hfound ?_ rfl) not_false
    rw [hstate]
    decide
  | silence hfound hstate =>
    refine iff_of_true (h.silence hfound ?_) not_false
    rw [hstate]
    decide
  | unsilence hfound _ => exact iff_of_true (h.unsilence hfound rfl) not_false
  | deleteAlert hfound hstate =>
    refine iff_of_true (h.eraseAlert hfound ?_) not_false
    rw [hstate]
    decide
  | createRecipient _ _ | updateRecipient _ _ | deleteRecipient _ _ => exact iff_of_true h not_false
  | saveAlertConfig _ =>
    refine iff_of_true (h.congr fun id e _ => ?_) not_false
    show (Edit.apply k (if _ then _ else _)).alerts.find? id = _
    split <;> rfl

/-- A request that fails keeps the silences unless it strands one. -/
theorem Silenced.unedited_iff (h : k.Silenced w) {q : Request} {d : Draft} {e : Error}
    (hyields : q.Yields .silencing k w d w') :
    k.Silenced w' ↔ ¬ (Task.request q).Strands (.error e) (k.site w) (k.site w') := by
  cases hyields with
  | @silence id a hfound hstate =>
    have hne : a.state ≠ .suppressed := by
      rw [hstate]
      decide
    rw [← k.id_of_alert hfound] at hfound
    -- The silence was added, and the alert is not suppressed; before, it had no silence.
    refine iff_of_false ?_ (not_not.2 ?_)
    · intro h'
      exact h'.not_mem hfound hne _ (Finset.mem_insert_self _ _)
    · intro heq
      have hmem : a.silence ∈ w := by
        rw [← show insert a.silence w = w from heq]
        exact Finset.mem_insert_self _ _
      exact h.not_mem hfound hne _ hmem
  | unsilence _ _ => exact iff_of_true (h.subset (Finset.erase_subset _ _)) not_false
  | createAlert _ _ _ | updateAlert _ _ _ | enable _ _ | disable _ _ | deleteAlert _ _
  | createRecipient _ _ | updateRecipient _ _ | deleteRecipient _ _ | saveAlertConfig _ =>
    exact iff_of_true h not_false

end Contents

/-! ## Runs -/

/-- A task keeps the silences unless it strands one, and the store goes on to hold contents. -/
theorem Task.kept_iff {k : Contents} {w : Finset (String × String)} (h : k.Silenced w) {task : Task}
    {r : Except Error Unit} {t : Site}
    (hrun : task.program.Runs (Site.answering .silencing) (k.site w) r t) :
    (∃ k' w', t = Contents.site k' w') ∧ (t.Kept ↔ ¬ task.Strands r (k.site w) t) := by
  have hended := Task.ended_of_runs hrun
  cases task with
  | request q =>
    cases r with
    | ok _ =>
      obtain ⟨d, w', hyields, hadmitted, rfl⟩ := hended
      exact ⟨⟨_, w', rfl⟩, Contents.kept_site.trans (h.edit_iff hyields hadmitted)⟩
    | error e =>
      obtain rfl | ⟨d, w', hyields, rfl⟩ := hended
      · refine ⟨⟨k, w, rfl⟩, iff_of_true (Contents.kept_site.2 h) ?_⟩
        unfold Strands
        split
        · next _ heq => nomatch heq
        · exact fun hne => hne rfl
        · exact not_false
      · exact ⟨⟨k, w', rfl⟩, Contents.kept_site.trans (h.unedited_iff hyields)⟩
  | tick =>
    obtain rfl | ⟨live, k', w', hlive, rfl, hsteps⟩ := hended
    · exact ⟨⟨k, w, rfl⟩, iff_of_true (Contents.kept_site.2 h) not_false⟩
    · -- Silences only go during a tick, so what was reported still counts for all of them.
      have hinv : k'.Silenced w' ∧ w' ⊆ w := by
        refine @Synchronizer.inv_of_settling _ (fun k' w' => k'.Silenced w' ∧ w' ⊆ w) live _ _ ?_
          hsteps ⟨h, Finset.Subset.refl _⟩
        rintro k₁ w₁ k₂ w₂ ⟨hsilenced, hsub⟩ hstep
        obtain ⟨hsilenced', hsub'⟩ := hsilenced.settling
          (fun l hl id e hid he hmem => hlive live rfl l hl id e hid he (hsub hmem)) hstep
        exact ⟨hsilenced', hsub'.trans hsub⟩
      exact ⟨⟨k', w', rfl⟩, iff_of_true (Contents.kept_site.2 hinv.1) not_false⟩

/-- Whether one of the tasks that were run from a site stranded a silence. -/
def Strands : Site → List TaskRun → Prop
  | _, [] => False
  | s, x :: l => x.task.Strands x.result s x.after ∨ Strands x.after l

/-- From where silences are kept they are kept until a task strands one. -/
theorem kept_iff_of_silenced {k : Contents} {w : Finset (String × String)} (h : k.Silenced w)
    {l : List TaskRun} (hruns : IsHistory .silencing (k.site w) l) :
    (∀ x ∈ l, x.after.Kept) ↔ ¬ Strands (k.site w) l := by
  induction l generalizing k w with
  | nil => exact iff_of_true (fun _ hx => nomatch hx) not_false
  | cons x l ih =>
    obtain ⟨hrun, hrest⟩ := hruns
    obtain ⟨⟨k', w', hafter⟩, hkept⟩ := Task.kept_iff h hrun
    rw [List.forall_mem_cons, Strands, not_or, hkept]
    apply and_congr_right
    intro hnot
    rw [← hkept, hafter, Contents.kept_site] at hnot
    rw [hafter] at hrest ⊢
    exact ih hnot hrest

/-- From an empty store without silences on, every active silence belongs to a stored alert that is
suppressed in its environment, exactly as long as no task moves a silenced alert to another
environment or fails after it has silenced one. -/
theorem kept_iff_not_strands {l : List TaskRun} (hruns : IsHistory .silencing .empty l) :
    (∀ x ∈ l, x.after.Kept) ↔ ¬ Strands .empty l :=
  kept_iff_of_silenced (k := .empty) (w := ∅) (fun _ _ hmem => nomatch hmem) hruns

/-! ## An alert that is moved while it is silenced -/

/-- An alerting backend lets everything succeed. -/
theorem Promise.permissive_silencing : silencing.Permissive where
  list _ _ _ := trivial
  get _ _ _ _ := trivial
  create _ _ _ _ _ := trivial
  update _ _ _ _ _ := trivial
  delete _ _ _ _ := trivial
  notify _ _ _ := trivial
  count _ _ _ := trivial
  addSilence _ _ := rfl
  removeSilence _ _ := rfl

/-- An alert with its recipient, in some environment and state. -/
def movedContents (environment : String) (state : AlertState) : Contents :=
  .sample (.sample "gen-0002" environment "gen-0001" state)

/-- An alert is created, fires, is silenced, and is moved to another environment. -/
def movedHistory : List TaskRun :=
  [⟨.request (.createRecipient (.sample "")), .ok (),
      (Contents.empty.put (.recipient (.sample "gen-0001"))).site ∅⟩,
    ⟨.request (.createAlert (.sample "" "e1" "gen-0001" .enabled)), .ok (),
      (movedContents "e1" .enabled).site ∅⟩,
    ⟨.tick, .ok (), (movedContents "e1" .active).site ∅⟩,
    ⟨.request (.act .silence "gen-0002"), .ok (),
      (movedContents "e1" .suppressed).site {("gen-0002", "e1")}⟩,
    ⟨.request (.updateAlert "gen-0002" (.sample "" "e2" "gen-0001" .enabled)), .ok (),
      (movedContents "e2" .suppressed).site {("gen-0002", "e1")}⟩]

/-- What fires is the alert. -/
def movedLive : List LiveAlert :=
  [.sample (.ofList [("alert_id", "gen-0002"), ("environment", "e1")]) "active"]

/-- All of this can happen. -/
theorem isHistory_movedHistory : IsHistory .silencing .empty movedHistory := by
  have hP := Promise.permissive_silencing
  have hput (e e' : String) (state state' : AlertState) :
      (movedContents e state).put (.alert (.sample "gen-0002" e' "gen-0001" state')) =
        movedContents e' state' := Contents.put_sample rfl rfl
  have hfound (e : String) (state : AlertState) :
      (movedContents e state).alerts.find? "gen-0002" =
        some (.sample "gen-0002" e "gen-0001" state) := Contents.find?_sample _
  have hrecipient (e : String) (state : AlertState) :
      (movedContents e state).recipients.find? "gen-0001" = some (.sample "gen-0001") :=
    Contents.find?_recipient_sample _
  refine ⟨Task.runs_createRecipient_sample hP trivial,
    Task.runs_createAlert_sample hP (fun _ => trivial) (by decide), ?_, ?_, ?_, trivial⟩
  · -- Nothing is silenced yet, so nothing is promised of what fires.
    have hlive : Promise.silencing .liveAlerts ((movedContents "e1" .enabled).site ∅)
        (.ok movedLive) := fun _ _ _ _ _ _ _ _ hmem => nomatch hmem
    have htick := Task.runs_tick (a := .sample "gen-0002" "e1" "gen-0001" .enabled) hP hlive rfl rfl
      (by decide) (by decide)
    have hactive : ((Alert.sample "gen-0002" "e1" "gen-0001" .enabled).reconcile movedLive).alert =
        .sample "gen-0002" "e1" "gen-0001" .active := by decide
    rw [hactive, hput] at htick
    exact htick
  · show Program.Runs _ _ _ _ ((movedContents "e1" .suppressed).site _)
    rw [← hput "e1" "e1" .active]
    exact Request.runs_operation hP (Request.runs_draft_silence hP (hfound "e1" .active) rfl) rfl
  · have hvalid : (Alert.sample "" "e2" "gen-0001" .enabled).validate = .ok () := by decide
    show Program.Runs _ _ _ _ ((movedContents "e2" .suppressed).site _)
    rw [← hput "e1" "e2" .suppressed]
    exact Request.runs_operation hP (Request.runs_draft_updateAlert hP (hfound "e1" .suppressed)
      hvalid (hrecipient "e1" .suppressed)) rfl

/-- The silence of the alert is left over when the alert is moved. -/
theorem not_kept_movedHistory :
    IsHistory .silencing .empty movedHistory ∧ ¬ ∀ x ∈ movedHistory, x.after.Kept := by
  refine ⟨isHistory_movedHistory, fun hkept => ?_⟩
  have hlast : ((movedContents "e2" .suppressed).site {("gen-0002", "e1")}).Kept :=
    hkept ⟨_, _, _⟩ (List.mem_of_getLast? rfl)
  obtain ⟨a, hfound, henvironment, -⟩ :=
    Contents.kept_site.1 hlast "gen-0002" "e1" (Finset.mem_singleton_self _)
  rw [show (movedContents "e2" .suppressed).alerts.find? "gen-0002" = some _ from
    Contents.find?_sample _] at hfound
  obtain rfl := Option.some.inj hfound
  exact absurd henvironment (by decide)

/-- Moving the alert is what strands its silence. -/
theorem kept_iff_not_strands_moved : IsHistory .silencing .empty movedHistory ∧
    ((∀ x ∈ movedHistory, x.after.Kept) ↔ ¬ Strands .empty movedHistory) ∧
    Strands .empty movedHistory := by
  refine ⟨isHistory_movedHistory, kept_iff_not_strands isHistory_movedHistory, ?_⟩
  right; right; right; right; left
  exact ⟨"e1", Finset.mem_singleton_self _, by decide⟩

end AlertSync
