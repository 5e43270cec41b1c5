import AlertSync.Proofs.Files.Transaction
import AlertSync.Proofs.Scene
import AlertSync.Simulation

/-!
# Runs in a world

In a `World` programs are run call by call, and everything is a value. If its store is kept in
memory, whatever it answers to a call is an answer that a `Ground` allows (`exists_answering`), so
what a program comes to in a world is one of its runs (`exists_runs`), also where it is counted and
noted what has happened (`exists_runs_noted`). Whatever its store, the program comes to what one of
its runs on the files does (`exists_runs_files`). Hence tasks that are run in a world lead to sites
that are `Reached`, and tasks and cycles of a loop to scenes that are `Reachable`: what is shown of
these is shown of worlds.

A world notes the calls to the alerting backend down and keeps no silences. The ground that it
`IsOn` has the silences that follow from the answers.
-/

namespace AlertSync

namespace World

/-- Whether a ground has the stored objects, the files and the bus of a world. -/
structure IsOn (w : World) (g : Ground) : Prop where
  store : w.store = .memory g.site.objects
  files : w.files = g.files
  bus : w.bus = g.bus

variable {w : World} {g : Ground}

/-- A world that starts with an empty store in memory is on an empty ground. -/
theorem isOn_start (peers : Peers) :
    (start (.memory .empty) peers).IsOn ⟨.empty, .empty, .fresh⟩ := ⟨rfl, rfl, rfl⟩

namespace IsOn

/-- Reading the store is answered as a ground allows, and changes nothing. -/
theorem exists_reading (h : w.IsOn g) {α : Type} {found : α} {answer : Except Error α}
    (hanswer : answer = .ok found) (name id : String) :
    ∃ g', w.IsOn g' ∧ g.site.Reads found (w.asked name id answer) g'.site ∧
      g'.files = g.files ∧ g'.bus = g.bus := by
  refine ⟨g, h, ⟨rfl, ?_⟩, rfl, rfl⟩
  rw [hanswer, asked]
  cases w.fault? ⟨name, id⟩ with
  | none => exact .inl rfl
  | some message => exact .inr ⟨_, rfl⟩

/-- Writing to the store is answered as a ground allows. -/
theorem exists_writing (h : w.IsOn g) {change : Except Error Objects} {result : Except Error Store}
    (hresult : result = change.map .memory) (name id : String) :
    ∃ g', (w.changed name id result).2.IsOn g' ∧
      g.site.Writes change (w.changed name id result).1 g'.site ∧
      g'.files = g.files ∧ g'.bus = g.bus := by
  rw [hresult, changed, asked]
  cases w.fault? ⟨name, id⟩ with
  | some message => exact ⟨g, h, .inr ⟨_, rfl, rfl⟩, rfl, rfl⟩
  | none =>
    cases change with
    | error e => exact ⟨g, h, .inr ⟨e, rfl, rfl⟩, rfl, rfl⟩
    | ok o =>
      refine ⟨⟨{ g.site with objects := o }, g.files, g.bus⟩, ⟨rfl, h.files, h.bus⟩, ?_, rfl, rfl⟩
      exact .inl ⟨o, rfl, rfl, rfl⟩

/-- A change of files is answered as a ground allows. -/
theorem exists_moving (h : w.IsOn g) {change result : Except Error FileSystem}
    (hresult : result = change) :
    ∃ g', (w.moved result).2.IsOn g' ∧ g'.site = g.site ∧
      FileSystem.Changes change (w.moved result).1 g'.files ∧ g'.bus = g.bus := by
  rw [hresult]
  cases change with
  | error e => exact ⟨g, h, rfl, .inr ⟨e, rfl⟩, rfl⟩
  | ok fs => exact ⟨⟨g.site, fs, g.bus⟩, ⟨h.store, rfl, h.bus⟩, rfl, .inl ⟨rfl, rfl⟩, rfl⟩

/-- Calling a backend leaves a world on the ground that it is on. -/
theorem peer (h : w.IsOn g) {α : Type} (name id : String) (answer : Except Error α) :
    (w.peer name id answer).2.IsOn g := by
  unfold World.peer
  cases w.peers with
  | told => exact ⟨h.store, h.files, h.bus⟩
  | unreachable => exact h

/-- Changing a silence is answered as a ground allows: the ground's silences follow the answer. -/
theorem exists_silencing (h : w.IsOn g) (name id : String) (after : Finset (String × String)) :
    ∃ g', (w.peer name id (.ok ())).2.IsOn g' ∧
      g.site.Silences after (w.peer name id (.ok ())).1 g'.site ∧
      g'.files = g.files ∧ g'.bus = g.bus := by
  have hpeer := h.peer name id (.ok ())
  cases hanswer : (w.peer name id (.ok ())).1 with
  | ok _ =>
    refine ⟨⟨{ g.site with silences := after }, g.files, g.bus⟩, ?_, .inl ⟨rfl, rfl⟩, rfl, rfl⟩
    exact ⟨hpeer.store, hpeer.files, hpeer.bus⟩
  | error e => exact ⟨g, hpeer, .inr ⟨e, rfl, rfl⟩, rfl, rfl⟩

/-- What a world answers to a call is an answer that its ground allows. -/
theorem exists_answering (h : w.IsOn g) (c : Call) :
    ∃ g', (w.answer c).2.IsOn g' ∧ Ground.answering c g (w.answer c).1 g' := by
  cases c with
  | list kind =>
    have hlist : w.store.list kind = .ok (g.site.objects.list kind) := by
      rw [h.store]
      rfl
    exact h.exists_reading hlist "store.list" kind.name
  | get kind id =>
    have hget : w.store.get? kind id = .ok (g.site.objects.get? kind id) := by
      rw [h.store]
      rfl
    exact h.exists_reading hget "store.get" id
  | create kind id payload =>
    have hcreate : w.store.create kind id payload =
        (g.site.objects.create kind id payload).map .memory := by
      rw [h.store]
      rfl
    exact h.exists_writing hcreate "store.create" id
  | update kind id payload =>
    have hupdate : w.store.update kind id payload =
        (g.site.objects.update kind id payload).map .memory := by
      rw [h.store]
      rfl
    exact h.exists_writing hupdate "store.update" id
  | delete kind id =>
    have hdelete : w.store.delete kind id = (g.site.objects.delete kind id).map .memory := by
      rw [h.store]
      rfl
    exact h.exists_writing hdelete "store.delete" id
  | writeFile path text =>
    have hwrite : w.files.write path text = g.files.write path text := by rw [h.files]
    exact h.exists_moving hwrite
  | moveFile source target =>
    have hmove : w.files.move source target = g.files.move source target := by rw [h.files]
    exact h.exists_moving hmove
  | removeFile path =>
    have hremove : w.files.remove path = g.files.remove path := by rw [h.files]
    exact h.exists_moving hremove
  | addSilence a =>
    exact h.exists_silencing "alertmanager.add_silence" a.id (insert a.silence g.site.silences)
  | removeSilence a =>
    exact h.exists_silencing "alertmanager.remove_silence" a.id (g.site.silences.erase a.silence)
  | notify topic =>
    have hbus : w.bus.notify topic = g.bus.notify topic := by rw [h.bus]
    exact ⟨⟨g.site, g.files, g.bus.notify topic⟩, ⟨h.store, h.files, hbus⟩, rfl, rfl, rfl⟩
  | freshId | count _ => exact ⟨g, ⟨h.store, h.files, h.bus⟩, rfl, rfl, rfl⟩
  | liveAlerts | reloadRoutes | reloadMetrics | environments | hosts _ =>
    exact ⟨g, h.peer _ _ _, rfl, rfl, rfl⟩
  | counters | readFile _ | pause _ => exact ⟨g, h, rfl, rfl, rfl⟩

end IsOn

/-- A change of the store counts nothing. -/
theorem counters_changed (name id : String) (change : Except Error Store) :
    (w.changed name id change).2.counters = w.counters := by
  unfold changed
  split <;> rfl

/-- A change of the files counts nothing. -/
theorem counters_moved (change : Except Error FileSystem) :
    (w.moved change).2.counters = w.counters := by
  cases change <;> rfl

/-- Calling a backend counts nothing. -/
theorem counters_peer {α : Type} (name id : String) (answer : Except Error α) :
    (w.peer name id answer).2.counters = w.counters := by
  unfold peer
  split <;> rfl

/-- What a world counts of a call is what is to be counted. -/
theorem counters_answer (w : World) (c : Call) :
    (w.answer c).2.counters = w.counters.after w.bus c := by
  cases c with
  | create _ _ _ | update _ _ _ | delete _ _ => exact counters_changed _ _ _
  | writeFile _ _ | moveFile _ _ | removeFile _ => exact counters_moved _
  | liveAlerts | addSilence _ | removeSilence _ | reloadRoutes | reloadMetrics | environments
  | hosts _ => exact counters_peer _ _ _
  | list _ | get _ _ | freshId | notify _ | count _ | counters | readFile _ | pause _ => rfl

/-- What a program comes to in a world is one of its runs where all is counted and every reply is
noted. -/
theorem IsOn.exists_runs_noted (h : w.IsOn g) {α : Type} (p : Program α) (l : List Reply) :
    ∃ g' l', (w.run p).2.IsOn g' ∧ p.Runs Tally.answering.noted (⟨g, w.counters⟩, l) (w.run p).1
      (⟨g', (w.run p).2.counters⟩, l') := by
  induction p generalizing w g l with
  | done a => exact ⟨g, l, h, rfl, rfl⟩
  | call c next ih =>
    obtain ⟨g₁, hon, hx⟩ := h.exists_answering c
    have hcounters : (w.answer c).2.counters = w.counters.after g.bus c := by
      rw [← h.bus]
      exact w.counters_answer c
    obtain ⟨g₂, l₂, hon', hrun⟩ := ih (w.answer c).1 hon (l ++ [⟨c, (w.answer c).1⟩])
    exact ⟨g₂, l₂, hon', _, _, ⟨⟨hx, hcounters⟩, rfl⟩, hrun⟩

/-- What a program comes to in a world is one of its runs on the ground of the world. -/
theorem IsOn.exists_runs (h : w.IsOn g) {α : Type} (p : Program α) :
    ∃ g', (w.run p).2.IsOn g' ∧ p.Runs Ground.answering g (w.run p).1 g' := by
  obtain ⟨g', _, hon, hrun⟩ := h.exists_runs_noted p []
  exact ⟨g', hon, hrun.map (fun s => s.1.ground) fun _ _ _ _ hx => hx.1.1⟩

/-- A change of the store leaves the files as they are. -/
theorem files_changed (name id : String) (change : Except Error Store) :
    (w.changed name id change).2.files = w.files := by
  unfold changed
  split <;> rfl

/-- Calling a backend leaves the files as they are. -/
theorem files_peer {α : Type} (name id : String) (answer : Except Error α) :
    (w.peer name id answer).2.files = w.files := by
  unfold peer
  split <;> rfl

/-- What a world answers to a call is an answer that its files allow. -/
theorem answering_files (w : World) (c : Call) :
    FileSystem.answering c w.files (w.answer c).1 (w.answer c).2.files := by
  cases c with
  | create _ _ _ | update _ _ _ | delete _ _ => exact files_changed _ _ _
  | liveAlerts | addSilence _ | removeSilence _ | reloadRoutes | reloadMetrics | environments
  | hosts _ => exact files_peer _ _ _
  | list _ | get _ _ | freshId | notify _ | count _ | counters | pause _ => rfl
  | readFile path => exact ⟨rfl, .inl rfl⟩
  | writeFile path text =>
    show FileSystem.answering (.writeFile path text) w.files
      (w.moved (w.files.write path text)).1 (w.moved (w.files.write path text)).2.files
    cases hwrite : w.files.write path text with
    | ok fs => exact .inl ⟨rfl, hwrite⟩
    | error e => exact .inr ⟨e, rfl, .inl rfl⟩
  | moveFile source target =>
    show FileSystem.answering (.moveFile source target) w.files
      (w.moved (w.files.move source target)).1 (w.moved (w.files.move source target)).2.files
    cases hmove : w.files.move source target with
    | ok fs => exact .inl ⟨rfl, hmove⟩
    | error e => exact .inr ⟨e, rfl, rfl⟩
  | removeFile path =>
    show FileSystem.answering (.removeFile path) w.files
      (w.moved (w.files.remove path)).1 (w.moved (w.files.remove path)).2.files
    cases hremove : w.files.remove path with
    | ok fs => exact .inl ⟨rfl, hremove⟩
    | error e => exact .inr ⟨e, rfl, hremove, rfl⟩

/-- What a program comes to in a world, whatever its store, is one of its runs on the files. -/
theorem exists_runs_files (w : World) {α : Type} (p : Program α) (l : List Reply) :
    ∃ l', p.Runs FileSystem.answering.noted (w.files, l) (w.run p).1 ((w.run p).2.files, l') := by
  induction p generalizing w l with
  | done a => exact ⟨l, rfl, rfl⟩
  | call c next ih =>
    obtain ⟨l', hrun⟩ := ih (w.answer c).1 (w.answer c).2 (l ++ [⟨c, (w.answer c).1⟩])
    exact ⟨l', _, _, ⟨w.answering_files c, rfl⟩, hrun⟩

/-- Programs one after the other are run one after the other. -/
theorem run_bind {α β : Type} (w : World) (p : Program α) (f : α → Program β) :
    w.run (p >>= f) = (w.run p).2.run (f (w.run p).1) := Program.run_bind answer p f w

end World

/-! ## Tasks and cycles -/

variable {w : World} {g : Ground}

/-- A task that is run in a world leads from a site that is reached to another. -/
theorem Reached.run_task (h : Reached .none g.site) (hw : w.IsOn g) (task : Task) :
    ∃ g', (w.run task.program).2.IsOn g' ∧ Reached .none g'.site := by
  obtain ⟨g', hon, hrun⟩ := hw.exists_runs task.program
  have hsite : task.program.Runs (Site.answering .none) g.site (w.run task.program).1 g'.site :=
    hrun.map Ground.site fun _ _ _ _ hx => ⟨trivial, hx.1⟩
  exact ⟨g', hon, .task task _ h hsite⟩

namespace Scene

variable {topic : Topic} {settings : SyncSettings} {delay : Nat} {s : Scene}

/-- A task that is run in the world of a scene leads to a scene with the world after it. -/
theorem Reachable.run_task (h : Reachable topic settings delay s) (hfree : s.active = none)
    (hw : w.IsOn s.ground) (task : Task) :
    ∃ g, (w.run task.program).2.IsOn g ∧ Reachable topic settings delay { s with ground := g } := by
  obtain ⟨g, hon, hrun⟩ := hw.exists_runs task.program
  exact ⟨g, hon, h.task_runs hfree hrun⟩

/-- So does a cycle, which begins when the notification has been taken. -/
theorem Reachable.run_cycle (h : Reachable topic settings delay s) (hstage : s.stage = .waiting)
    (harrival : s.ground.bus.arrival topic = .received) (hw : w.IsOn s.ground) :
    ∃ g, (({ w with bus := w.bus.receive topic } : World).run
        (topic.synchronizer.cycle settings delay)).2.IsOn g ∧
      Reachable topic settings delay
        { s with
          ground := g
          stage := .waiting
          latest := some (({ w with bus := w.bus.receive topic } : World).run
            (topic.synchronizer.sync settings).outcome).1 } := by
  have hbus : w.bus.receive topic = s.ground.bus.receive topic := by rw [hw.bus]
  have hwoken : World.IsOn { w with bus := w.bus.receive topic }
      { s.ground with bus := s.ground.bus.receive topic } := ⟨hw.store, hw.files, hbus⟩
  obtain ⟨g₁, hon, hsync⟩ := hwoken.exists_runs (topic.synchronizer.sync settings).outcome
  obtain ⟨g₂, hon', hconclude⟩ := hon.exists_runs (topic.synchronizer.conclude delay _)
  refine ⟨g₂, ?_, h.cycle_runs hstage harrival hsync hconclude⟩
  rw [Synchronizer.cycle, World.run_bind]
  exact hon'

end Scene

end AlertSync
