import AlertSync.Proofs.Success

/-!
# The lifecycle of an alert

An alert enters the store enabled. From then on users take it from enabled to disabled and back, and
from active to suppressed and back, each by the one action that is there for it, and ticks take it
between enabled, active and suppressed. It leaves the store only while it is disabled
(`Task.Moves`). While it is enabled or disabled it has no times. All of that holds along every
history of tasks, whatever users hand in, whatever fires and whatever fails
(`followsLifecycle_of_isHistory`).

A request makes at most one move, that of its draft (`Task.moves_of_yields`). A tick settles alerts
one after the other; each of them it leaves alone or moves between the states of an alert that is
not disabled, and so does any number of such moves (`Task.Moves.observed_trans`). That there are no
times (`Alert.IsTimely`) no operation checks: updates and actions keep the times that they find,
between two states that both have none or both may have some, and reconciling takes the times over
from the live alert together with the state.
-/

namespace AlertSync

/-- The moves of the alert under an id that a task may make, from a state to another. There is no
state where no alert is stored. -/
inductive Task.Moves (id : String) : Task → Option AlertState → Option AlertState → Prop
  /-- Every task may leave the alert in its state. -/
  | stays (task : Task) (x : Option AlertState) : Moves id task x x
  /-- A new alert is enabled. -/
  | enters (a : Alert) : Moves id (.request (.createAlert a)) none (some .enabled)
  /-- An action takes the alert from its source to its target. -/
  | acts (action : AlertAction) :
      Moves id (.request (.act action id)) (some action.source) (some action.target)
  /-- A tick takes the alert from any state to any other, but not to or from disabled. -/
  | observed {x y : AlertState} (hx : x ≠ .disabled) (hy : y ≠ .disabled) :
      Moves id .tick (some x) (some y)
  /-- An alert that goes is disabled. -/
  | leaves : Moves id (.request (.deleteAlert id)) (some .disabled) none

/-- Whether an alert has no times while it is enabled or disabled. -/
def Alert.IsTimely (a : Alert) : Prop :=
  a.state = .enabled ∨ a.state = .disabled → a.startsAt = none ∧ a.endsAt = none

/-- Whether every stored alert can be read, under its own id, and has no times while it is enabled
or disabled. -/
def Site.IsTimely (s : Site) : Prop :=
  ∀ id payload, s.objects.alerts.find? id = some payload →
    ∃ a, Alert.ofPayload payload = .ok a ∧ a.id = id ∧ a.IsTimely

/-- Whether along a history from a site each task makes a move of each alert that it may make, and
leaves alerts without times wherever they should have none. -/
def FollowsLifecycle : Site → List TaskRun → Prop
  | _, [] => True
  | s, x :: l =>
    (∀ id, x.task.Moves id ((s.alert? id).map (·.state)) ((x.after.alert? id).map (·.state))) ∧
      x.after.IsTimely ∧ FollowsLifecycle x.after l

/-! ## Moves -/

namespace Contents

variable {k k' : Contents} {w w' : Finset (String × String)}

/-- The state of the alert under an id. -/
def stateOf (k : Contents) (id : String) : Option AlertState :=
  (k.alerts.find? id).map (·.state)

/-- Putting an alert into the contents changes the state under its id, and no other. -/
theorem stateOf_put_alert (a : Alert) (id : String) :
    (k.put (.alert a)).stateOf id = if id = a.id then some a.state else k.stateOf id := by
  show ((k.alerts.insert a.id a).find? id).map _ = _
  rw [SortedMap.find?_insert]
  split <;> rfl

/-- Erasing an alert takes the state under its id away, and no other. -/
theorem stateOf_eraseAlert (gone id : String) :
    (k.eraseAlert gone).stateOf id = if id = gone then none else k.stateOf id := by
  show ((k.alerts.erase gone).find? id).map _ = _
  rw [SortedMap.find?_erase]
  split <;> rfl

/-- The state of an alert that is found. -/
theorem stateOf_of_find? {id : String} {a : Alert} (h : k.alerts.find? id = some a) :
    k.stateOf id = some a.state := by
  unfold stateOf
  rw [h]
  rfl

end Contents

namespace Task

variable {P : Promise} {k : Contents} {w w' : Finset (String × String)} {id : String}

/-- An action that puts an alert into its target state makes the move that it is for. -/
theorem moves_act (action : AlertAction) {x : String} {a : Alert}
    (hfound : k.alerts.find? x = some a) (hstate : a.state = action.source) (id : String) :
    (Task.request (.act action x)).Moves id (k.stateOf id)
      ((k.put (.alert { a with state := action.target })).stateOf id) := by
  have hid : a.id = x := k.id_of_alert hfound
  rw [Contents.stateOf_put_alert]
  split
  · next heq =>
    have hx : id = x := heq.trans hid
    subst hx
    rw [Contents.stateOf_of_find? hfound, hstate]
    exact .acts action
  · exact .stays _ _

/-- A request that makes its change makes a move of each alert that it may make. -/
theorem moves_of_yields {q : Request} {d : Draft} (hyields : q.Yields P k w d w')
    (hadmitted : d.edit.Admitted k) (id : String) :
    (Task.request q).Moves id (k.stateOf id) ((d.edit.apply k).stateOf id) := by
  cases hyields with
  | @createAlert a r new _ _ _ =>
    -- The id of the new alert is free, so there was no alert under it.
    have hfree : k.stateOf new = none := by
      have hcontains : (k.alerts.map Alert.payload).contains new = false := hadmitted
      rw [SortedMap.contains_eq_isSome, SortedMap.find?_map, Option.isSome_map] at hcontains
      unfold Contents.stateOf
      rw [Option.not_isSome_iff_eq_none.1 (Bool.eq_false_iff.1 hcontains)]
      rfl
    show Moves id _ _ ((k.put (.alert _)).stateOf id)
    rw [Contents.stateOf_put_alert]
    split
    · next heq =>
      have hnew : id = new := heq
      rw [hnew, hfree]
      exact .enters a
    · exact .stays _ _
  | @updateAlert x a current r hfound _ _ =>
    have hid : current.id = x := k.id_of_alert hfound
    show Moves id _ _ ((k.put (.alert _)).stateOf id)
    rw [Contents.stateOf_put_alert]
    split
    · next heq =>
      have hx : id = x := heq.trans hid
      rw [hx, Contents.stateOf_of_find? hfound]
      exact .stays _ _
    · exact .stays _ _
  | enable hfound hstate => exact moves_act .enable hfound hstate id
  | disable hfound hstate => exact moves_act .disable hfound hstate id
  | silence hfound hstate => exact moves_act .silence hfound hstate id
  | unsilence hfound hstate => exact moves_act .unsilence hfound hstate id
  | @deleteAlert x a hfound hstate =>
    show Moves id _ _ ((k.eraseAlert x).stateOf id)
    rw [Contents.stateOf_eraseAlert]
    split
    · next heq =>
      subst heq
      rw [Contents.stateOf_of_find? hfound, hstate]
      exact .leaves
    · exact .stays _ _
  | createRecipient _ _ | updateRecipient _ _ | deleteRecipient _ _ => exact .stays _ _
  | saveAlertConfig _ =>
    have hsame : ∀ e : Bool, ∀ c, (Edit.apply k (if e = true then .update (.alertConfig c)
        else .create (.alertConfig c))).stateOf id = k.stateOf id := by
      intro e c
      cases e <;> rfl
    rw [hsame]
    exact .stays _ _

/-- Moves of a tick one after the other are a move of a tick. -/
theorem Moves.observed_trans {x y z : Option AlertState} (h : Task.tick.Moves id x y)
    (h' : Task.tick.Moves id y z) : Task.tick.Moves id x z := by
  cases h with
  | stays => exact h'
  | observed hx _ =>
    cases h' with
    | stays => exact .observed hx ‹_›
    | observed _ hz => exact .observed hx hz

/-- What is observed of an alert is not that it is disabled. -/
theorem observedState_ne_disabled (l : Option LiveAlert) : observedState l ≠ .disabled := by
  cases l with
  | none => decide
  | some l =>
    rw [observedState]
    split <;> decide

/-- Settling an alert makes a move of each alert that a tick may make. -/
theorem moves_of_settling {live : List LiveAlert} {k' : Contents}
    (h : Synchronizer.Settling P live (k, w) (k', w')) (id : String) :
    Task.tick.Moves id (k.stateOf id) (k'.stateOf id) := by
  obtain ⟨a, hfound, henabled, hsettled⟩ := h
  cases hsettled with
  | unchanged _ | unwritten _ _ => exact .stays _ _
  | written _ _ _ =>
    show Moves id .tick (k.stateOf id) ((k.put (.alert (a.reconcile live).alert)).stateOf id)
    rw [Contents.stateOf_put_alert]
    split
    · next heq =>
      have hid : id = a.id := heq
      have hstate : a.state ≠ .disabled := by
        intro hdisabled
        rw [Alert.isDisabled, hdisabled] at henabled
        nomatch henabled
      rw [hid, Contents.stateOf_of_find? hfound]
      exact .observed hstate (observedState_ne_disabled _)
    · exact .stays _ _

/-- A tick makes a move of each alert that it may make. -/
theorem moves_of_settlings {live : List LiveAlert} {s t : Contents × Finset (String × String)}
    (h : Relation.ReflTransGen (Synchronizer.Settling P live) s t) (id : String) :
    Task.tick.Moves id (s.1.stateOf id) (t.1.stateOf id) := by
  induction h with
  | refl => exact .stays _ _
  | tail _ hstep ih => exact ih.observed_trans (moves_of_settling hstep id)

end Task

/-! ## Times -/

namespace Alert

/-- An alert that takes another's times is timely if it has times only where the other has. -/
theorem IsTimely.of_times {a b : Alert} (h : a.IsTimely) (hstarts : b.startsAt = a.startsAt)
    (hends : b.endsAt = a.endsAt)
    (hstate : b.state = .enabled ∨ b.state = .disabled → a.state = .enabled ∨ a.state = .disabled) :
    b.IsTimely := by
  intro hb
  rw [hstarts, hends]
  exact h (hstate hb)

/-- Reconciling takes times over only with a state that may have some. -/
theorem isTimely_reconcile (a : Alert) (live : List LiveAlert) :
    (a.reconcile live).alert.IsTimely := by
  intro hstate
  change observedState (a.observed? live) = _ ∨ observedState (a.observed? live) = _ at hstate
  show (a.observed? live).bind _ = none ∧ (a.observed? live).bind _ = none
  cases hobserved : a.observed? live with
  | none => exact ⟨rfl, rfl⟩
  | some l =>
    -- A live alert makes the alert suppressed or active.
    rw [hobserved, observedState] at hstate
    split at hstate
    · obtain h | h := hstate <;> nomatch h
    · obtain h | h := hstate <;> nomatch h

end Alert

namespace Contents

variable {k k' : Contents} {w w' : Finset (String × String)}

/-- Whether all alerts have no times while they are enabled or disabled. -/
def IsTimely (k : Contents) : Prop :=
  ∀ id a, k.alerts.find? id = some a → a.IsTimely

/-- At a site of timely contents all alerts are timely. -/
theorem IsTimely.site (h : k.IsTimely) : (k.site w).IsTimely := by
  intro id payload hpayload
  change (k.alerts.map Alert.payload).find? id = some payload at hpayload
  rw [SortedMap.find?_map, Option.map_eq_some_iff] at hpayload
  obtain ⟨a, ha, rfl⟩ := hpayload
  exact ⟨a, a.ofPayload_payload, k.id_of_alert ha, h id a ha⟩

/-- A timely alert may be put into timely contents. -/
theorem IsTimely.put_alert (h : k.IsTimely) {a : Alert} (ha : a.IsTimely) :
    (k.put (.alert a)).IsTimely := by
  intro id b hb
  change (k.alerts.insert a.id a).find? id = some b at hb
  rw [SortedMap.find?_insert] at hb
  split at hb
  · obtain rfl := Option.some.inj hb
    exact ha
  · exact h id b hb

/-- Every change that a request decides on leaves timely contents timely. -/
theorem IsTimely.edit (h : k.IsTimely) {P : Promise} {q : Request} {d : Draft}
    (hyields : q.Yields P k w d w') : (d.edit.apply k).IsTimely := by
  cases hyields with
  | createAlert _ _ _ => exact h.put_alert fun _ => ⟨rfl, rfl⟩
  | updateAlert hfound _ _ =>
    exact h.put_alert ((h _ _ hfound).of_times rfl rfl fun hstate => hstate)
  | enable hfound hstate =>
    exact h.put_alert ((h _ _ hfound).of_times rfl rfl fun _ => .inr hstate)
  | disable hfound hstate =>
    exact h.put_alert ((h _ _ hfound).of_times rfl rfl fun _ => .inl hstate)
  | silence _ _ | unsilence _ _ =>
    -- The target state may have times.
    apply h.put_alert
    rintro (hstate | hstate) <;> nomatch hstate
  | @deleteAlert x a _ _ =>
    intro id b hb
    change (k.alerts.erase x).find? id = some b at hb
    rw [SortedMap.find?_erase] at hb
    split at hb
    · nomatch hb
    · exact h id b hb
  | createRecipient _ _ | updateRecipient _ _ | deleteRecipient _ _ => exact h
  | saveAlertConfig _ =>
    show (Edit.apply k (if _ then _ else _)).IsTimely
    split <;> exact h

/-- Settling an alert leaves timely contents timely. -/
theorem IsTimely.settling (h : k.IsTimely) {P : Promise} {live : List LiveAlert}
    (hstep : Synchronizer.Settling P live (k, w) (k', w')) : k'.IsTimely := by
  obtain ⟨a, -, -, hsettled⟩ := hstep
  cases hsettled with
  | unchanged _ | unwritten _ _ => exact h
  | written _ _ _ => exact h.put_alert (a.isTimely_reconcile live)

end Contents

/-! ## Histories -/

/-- A task that begins with timely contents ends with timely contents, and makes a move of each
alert that it may make. -/
theorem Task.moves_of_runs {P : Promise} {k : Contents} {w : Finset (String × String)}
    (htimely : k.IsTimely) {task : Task} {r : Except Error Unit} {t : Site}
    (hrun : task.program.Runs (Site.answering P) (k.site w) r t) :
    ∃ k' w', t = Contents.site k' w' ∧ k'.IsTimely ∧
      ∀ id, task.Moves id (k.stateOf id) (k'.stateOf id) := by
  have hended := Task.ended_of_runs hrun
  cases task with
  | request q =>
    cases r with
    | ok _ =>
      obtain ⟨d, w', hyields, hadmitted, rfl⟩ := hended
      exact ⟨_, w', rfl, htimely.edit hyields, moves_of_yields hyields hadmitted⟩
    | error e =>
      obtain rfl | ⟨d, w', -, rfl⟩ := hended
      · exact ⟨k, w, rfl, htimely, fun _ => .stays _ _⟩
      · exact ⟨k, w', rfl, htimely, fun _ => .stays _ _⟩
  | tick =>
    obtain rfl | ⟨live, k', w', -, rfl, hsteps⟩ := hended
    · exact ⟨k, w, rfl, htimely, fun _ => .stays _ _⟩
    · refine ⟨k', w', rfl, ?_, moves_of_settlings hsteps⟩
      exact @Synchronizer.inv_of_settling _ (fun k _ => k.IsTimely) live _ _
        (fun h hstep => h.settling hstep) hsteps htimely

/-- From timely contents on every history follows the lifecycle. -/
theorem followsLifecycle_of_isTimely {P : Promise} {k : Contents} {w : Finset (String × String)}
    (htimely : k.IsTimely) {l : List TaskRun} (hruns : IsHistory P (k.site w) l) :
    FollowsLifecycle (k.site w) l := by
  induction l generalizing k w with
  | nil => trivial
  | cons x l ih =>
    obtain ⟨hrun, hrest⟩ := hruns
    obtain ⟨k', w', hafter, htimely', hmoves⟩ := Task.moves_of_runs htimely hrun
    rw [hafter] at hrest
    rw [FollowsLifecycle, hafter]
    refine ⟨?_, htimely'.site, ih htimely' hrest⟩
    intro id
    rw [Contents.alert?_site, Contents.alert?_site]
    exact hmoves id

/-- From an empty store on every history follows the lifecycle: alerts enter enabled, change their
states only as actions and ticks may change them, leave disabled, and have no times while they are
enabled or disabled. -/
theorem followsLifecycle_of_isHistory {l : List TaskRun} (hruns : IsHistory .none .empty l) :
    FollowsLifecycle .empty l :=
  followsLifecycle_of_isTimely (k := .empty) (w := ∅) (fun _ _ h => nomatch h) hruns

/-! ## An alert that comes and goes -/

/-- The contents with an alert and its recipient. -/
def passingContents (state : AlertState) : Contents :=
  .sample (.sample "gen-0002" "e1" "gen-0001" state)

/-- An alert is created, disabled and deleted. -/
def passingHistory : List TaskRun :=
  [⟨.request (.createRecipient (.sample "")), .ok (),
      (Contents.empty.put (.recipient (.sample "gen-0001"))).site ∅⟩,
    ⟨.request (.createAlert (.sample "" "e1" "gen-0001" .enabled)), .ok (),
      (passingContents .enabled).site ∅⟩,
    ⟨.request (.act .disable "gen-0002"), .ok (), (passingContents .disabled).site ∅⟩,
    ⟨.request (.deleteAlert "gen-0002"), .ok (),
      ((passingContents .disabled).eraseAlert "gen-0002").site ∅⟩]

/-- An alert that is created, disabled and deleted follows the lifecycle. -/
theorem followsLifecycle_of_isHistory_passing :
    IsHistory .none .empty passingHistory ∧ FollowsLifecycle .empty passingHistory := by
  have hP := Promise.permissive_none
  have hfound (state : AlertState) : (passingContents state).alerts.find? "gen-0002" =
      some (.sample "gen-0002" "e1" "gen-0001" state) := Contents.find?_sample _
  have hput : (passingContents .enabled).put
      (.alert (.sample "gen-0002" "e1" "gen-0001" .disabled)) = passingContents .disabled :=
    Contents.put_sample rfl rfl
  have hruns : IsHistory .none .empty passingHistory := by
    refine ⟨Task.runs_createRecipient_sample hP trivial,
      Task.runs_createAlert_sample hP (fun _ => trivial) (by decide), ?_, ?_, trivial⟩
    · show Program.Runs _ _ _ _ ((passingContents .disabled).site _)
      rw [← hput]
      exact Request.runs_operation hP
        (Request.runs_draft_disable hP (hfound .enabled) rfl) rfl
    · exact Request.runs_operation hP
        (Request.runs_draft_deleteAlert hP (hfound .disabled) rfl) rfl
  exact ⟨hruns, followsLifecycle_of_isHistory hruns⟩

end AlertSync
