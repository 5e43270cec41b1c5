import AlertSync.Proofs.Notifying
import AlertSync.Proofs.World

/-!
# What a sync does to its file

A sync gathers what it needs, builds a text of it, and replaces its file. Which text that is follows
from what it was answered (`Synchronizer.Builds`). However its calls are answered, if only a
temporary file that is there can be removed, a sync that ends well has put that text into its file,
and one that fails has spared it and is followed by no reload (`replaces_or_spares`).

What gathers only reads, so what has failed until then leaves the files as they are; the rest is in
the hands of `Artifact.write`. Each synchronizer is followed call by call up to its text
(`always_syncRoutes`, `always_syncRules`, `always_syncTargets`).
-/

namespace AlertSync

open FileSystem (answering)
open Program (Always Runs)

namespace Call

/-- Whether a call has a backend read its files again. -/
def isReload : Call → Bool
  | reloadRoutes | reloadMetrics => true
  | _ => false

/-- Whether a call is one of those by which files are generated. -/
def isGenerating : Call → Bool
  | list _ | get .. | environments | hosts _ => true
  | readFile _ | writeFile .. | moveFile .. | removeFile _ => true
  | _ => false

/-- To generate a file is not to reload it. -/
theorem isReload_of_isGenerating (c : Call) (h : c.isGenerating = true) : c.isReload = false := by
  cases c <;> first | rfl | nomatch h

/-- To generate a file changes neither stored objects nor silences. -/
theorem changesSite_of_isGenerating (c : Call) (h : c.isGenerating = true) :
    c.changesSite = false := by
  cases c <;> first | rfl | nomatch h

/-- To read what is stored is part of generating a file. -/
theorem isGenerating_of_isRead (c : Call) (h : c.isRead = true) : c.isGenerating = true := by
  cases c <;> first | rfl | nomatch h

end Call

/-- What the platform answers when it lists the hosts of an inventory. -/
def Inventory.hostReplies (i : Inventory) : List Reply := i.map fun e => ⟨.hosts e.1.id, .ok e.2⟩

/-- What the platform answers when it lists an inventory. -/
def Inventory.replies (i : Inventory) : List Reply :=
  ⟨.environments, .ok (i.map (·.1))⟩ :: i.hostReplies

namespace Synchronizer

/-- The notification settings that a stored object is read as, if there is one. -/
def readSettings : Option StoredObject → Except Error (Option AlertConfig)
  | some object => (AlertConfig.ofPayload object.payload).map some
  | none => .ok none

/-- The alerts that stored objects are read as. -/
def readAlerts (objects : List StoredObject) : Except Error (List Alert) :=
  objects.mapM fun object => Alert.ofPayload object.payload

/-- The recipients that stored objects are read as. -/
def readRecipients (objects : List StoredObject) : Except Error (List Recipient) :=
  objects.mapM fun object => Recipient.ofPayload object.payload

/-- Whether a synchronizer that was answered so builds a text, given the files. -/
inductive Builds (s : SyncSettings) (fs : FileSystem) : Synchronizer → List Reply → String → Prop
  | route {object : Option StoredObject} {objects objects' : List StoredObject}
      {settings : Option AlertConfig} {alerts : List Alert} {recipients : List Recipient}
      (hsettings : readSettings object = .ok settings) (halerts : readAlerts objects = .ok alerts)
      (hrecipients : readRecipients objects' = .ok recipients) :
      Builds s fs route [⟨.get .alertConfig Registry.settingsId, .ok object⟩,
          ⟨.list .alert, .ok objects⟩, ⟨.list .recipient, .ok objects'⟩]
        (Yaml.text (Yaml.ofTree (RoutingConfig.build settings alerts recipients).tree))
  | rule {objects : List StoredObject} {alerts : List Alert}
      (halerts : readAlerts objects = .ok alerts) :
      Builds s fs rule [⟨.list .alert, .ok objects⟩]
        (Yaml.text (Yaml.ofTree (RuleGroups.ofAlerts alerts).tree))
  | target {i : Inventory} {present text : String} {former merged : Yaml.Value}
      (hpresent : fs.read s.scrapeFile = .ok present) (hformer : document present = .ok former)
      (hmerged : mergeScrapeJobs former (ScrapeConfig.build i s.ports) = .ok merged)
      (htext : documentText merged = .ok text) :
      Builds s fs target (i.replies ++ [⟨.readFile s.scrapeFile, .ok present⟩]) text

/-- Whether a sync of a file that ends so has replaced the file by what it has built, or spared it.
-/
def Generates (x : Synchronizer) (s : SyncSettings) (file : FilePath) (fs : FileSystem)
    (r : Except Error Outcome) (t : FileSystem × List Reply) : Prop :=
  (∀ o, r = .ok o → o = .reload ∧
    ∃ l text, x.Builds s fs l text ∧ l <+: t.2 ∧ fs.Replaced t.1 file text) ∧
  ∀ e, r = .error e → fs.Spared t.1 file

variable {x : Synchronizer} {s : SyncSettings} {file : FilePath} {fs : FileSystem} {l : List Reply}

/-- What fails before anything is written spares the file. -/
theorem generates_error (e : Error) (l : List Reply) : x.Generates s file fs (.error e) (fs, l) :=
  ⟨nofun, fun _ _ => .refl fs file⟩

/-- The text that was built replaces the file, or this is spared. -/
theorem always_replace {text : String} (h : x.Builds s fs l text) :
    Always answering.noted (x.Generates s file fs)
      (Artifact.write file text >>= fun _ => pure .reload : Operation Outcome).outcome (fs, l) := by
  rw [Operation.always_bind]
  apply (Artifact.always_replaced_or_spared file text fs).noted.mono
  rintro (e | u) t ⟨⟨hreplaced, hspared⟩, hl⟩
  · exact ⟨nofun, fun _ _ => hspared e rfl⟩
  · refine ⟨?_, nofun⟩
    intro o ho
    exact ⟨(Except.ok.inj ho).symm, l, text, h, hl, hreplaced u rfl⟩

/-! ## What is gathered -/

/-- A call that writes no files is noted, and the files are as before. -/
theorem always_call_noted {α : Type} {c : Call} {next : c.Answer → Program α}
    {post : α → FileSystem × List Reply → Prop} (hc : c.writesFile = false)
    (h : ∀ y, answering c fs y fs → Always answering.noted post (next y) (fs, l ++ [⟨c, y⟩])) :
    Always answering.noted post (.call c next) (fs, l) := by
  rintro y ⟨fs', m⟩ ⟨hy, rfl⟩
  obtain rfl : fs' = fs := FileSystem.eq_of_answering hc hy
  exact h y hy

/-- Listing a shelf fails, or finds what the answer of the store is read as. -/
theorem always_listing_noted {α : Type} (f : Shelf α)
    {post : Except Error (List α) → FileSystem × List Reply → Prop}
    (hfail : ∀ e m, post (.error e) (fs, m))
    (hok : ∀ objects values,
      objects.mapM (fun o : StoredObject => f.decode o.payload) = .ok values →
      post (.ok values) (fs, l ++ [⟨.list f.kind, .ok objects⟩])) :
    Always answering.noted post f.listing.outcome (fs, l) := by
  refine always_call_noted rfl ?_
  rintro (e | objects) -
  · exact hfail e _
  · show Always _ post (Operation.ofExcept _ >>= _).outcome _
    apply Operation.always_ofExcept_bind
    · exact fun e => hfail e _
    · intro values hvalues
      show post (.ok (values.filter fun _ => true)) _
      rw [List.filter_true]
      exact hok objects values hvalues

/-- Looking up the notification settings fails, or finds what the answer of the store is read as. -/
theorem always_alertConfig_noted
    {post : Except Error (Option AlertConfig) → FileSystem × List Reply → Prop}
    (hfail : ∀ e m, post (.error e) (fs, m))
    (hok : ∀ object settings, readSettings object = .ok settings →
      post (.ok settings) (fs, l ++ [⟨.get .alertConfig Registry.settingsId, .ok object⟩])) :
    Always answering.noted post Registry.alertConfig.outcome (fs, l) := by
  refine always_call_noted rfl ?_
  rintro (e | object) -
  · exact hfail e _
  · cases object with
    | none => exact hok none none rfl
    | some object =>
      show post ((AlertConfig.ofPayload object.payload).map some) _
      cases hread : (AlertConfig.ofPayload object.payload).map some with
      | error e => exact hfail e _
      | ok settings => exact hok (some object) settings hread

/-- Listing the hosts of environments fails, or finds them. -/
theorem always_hosts (environments : List Environment) :
    Always answering.noted (fun r t => t.1 = fs ∧ ∀ i, r = .ok i →
        i.map (·.1) = environments ∧ t.2 = l ++ Inventory.hostReplies i)
      (environments.mapM fun e => do
        let hosts ← Operation.ofProgram (.ask (.hosts e.id))
        return (e, hosts) : Operation Inventory).outcome (fs, l) := by
  induction environments generalizing l with
  | nil =>
    refine ⟨rfl, fun i hi => ?_⟩
    obtain rfl := Except.ok.inj hi
    exact ⟨rfl, l.append_nil.symm⟩
  | cons e environments ih =>
    rw [List.mapM_cons, Operation.always_bind, Operation.always_bind]
    refine always_call_noted rfl ?_
    rintro (e' | hosts) -
    · exact ⟨rfl, nofun⟩
    · show Always _ _ (List.mapM _ environments >>= _ : Operation Inventory).outcome _
      rw [Operation.always_bind]
      have hrest := @ih (l ++ [(⟨.hosts e.id, .ok hosts⟩ : Reply)])
      apply hrest.mono
      rintro (e' | i) t ⟨hfiles, hi⟩
      · exact ⟨hfiles, nofun⟩
      · obtain ⟨henvironments, hreplies⟩ := hi i rfl
        refine ⟨hfiles, fun j hj => ?_⟩
        obtain rfl := Except.ok.inj hj
        exact ⟨congrArg (e :: ·) henvironments, hreplies.trans (List.append_assoc _ _ _)⟩

/-- Discovering fails, or finds an inventory that the platform has listed. -/
theorem always_discover :
    Always answering.noted (fun r t => t.1 = fs ∧ ∀ i, r = .ok i → t.2 = l ++ Inventory.replies i)
      discover.outcome (fs, l) := by
  unfold discover
  rw [Operation.always_bind]
  refine always_call_noted rfl ?_
  rintro (e | environments) -
  · exact ⟨rfl, nofun⟩
  · apply (always_hosts environments).mono
    rintro r t ⟨hfiles, hfound⟩
    refine ⟨hfiles, fun i hi => ?_⟩
    obtain ⟨rfl, hreplies⟩ := hfound i hi
    exact hreplies.trans (List.append_assoc _ _ _)

/-! ## The syncs -/

/-- The routing tree replaces its file, or this is spared. -/
theorem always_syncRoutes (s : SyncSettings) (fs : FileSystem) :
    Always answering.noted (Generates .route s s.routeFile fs) (syncRoutes s.routeFile).outcome
      (fs, []) := by
  unfold syncRoutes buildRoutes
  simp only [bind_assoc, pure_bind]
  rw [Operation.always_bind]
  apply always_alertConfig_noted generates_error
  intro object settings hsettings
  apply Operation.always_bind.2
  apply always_listing_noted .alerts generates_error
  intro objects alerts halerts
  apply Operation.always_bind.2
  apply always_listing_noted .recipients generates_error
  intro objects' recipients hrecipients
  exact always_replace (.route hsettings halerts hrecipients)

/-- The rules replace their file, or this is spared. -/
theorem always_syncRules (s : SyncSettings) (fs : FileSystem) :
    Always answering.noted (Generates .rule s s.ruleFile fs) (syncRules s.ruleFile).outcome
      (fs, []) := by
  unfold syncRules buildRules
  simp only [bind_assoc, pure_bind]
  rw [Operation.always_bind]
  apply always_listing_noted .alerts generates_error
  intro objects alerts halerts
  exact always_replace (.rule halerts)

/-- The file with the merged scrape jobs replaces the one that was read, or this is spared. -/
theorem always_syncTargets (s : SyncSettings) (fs : FileSystem) :
    Always answering.noted (Generates .target s s.scrapeFile fs)
      (syncTargets s.scrapeFile s.ports).outcome (fs, []) := by
  unfold syncTargets
  rw [Operation.always_bind]
  apply always_discover.mono
  rintro (e | i) ⟨fs', m⟩ ⟨hsame, hreplies⟩
  · obtain rfl : fs' = fs := hsame
    exact generates_error e m
  · obtain rfl : fs' = fs := hsame
    obtain rfl : m = i.replies := hreplies i rfl
    apply Operation.always_bind.2
    refine always_call_noted rfl ?_
    rintro (e | present) hread
    · exact generates_error e _
    · have hpresent : fs'.read s.scrapeFile = .ok present := by
        obtain ⟨-, hfound | ⟨e, herror⟩⟩ := hread
        · exact hfound.symm
        · nomatch herror
      apply Operation.always_ofExcept_bind (fun e => generates_error e _)
      intro former hformer
      apply Operation.always_ofExcept_bind (fun e => generates_error e _)
      intro merged hmerged
      apply Operation.always_ofExcept_bind (fun e => generates_error e _)
      intro text htext
      exact always_replace (.target hpresent hformer hmerged htext)

/-- A sync of a file makes no other calls than those by which it is generated. -/
theorem calls_sync (h : x.file? s = some file) :
    (x.sync s).outcome.Calls (·.isGenerating = true) := by
  have hreplace (path : FilePath) (text : String) :
      (Artifact.write path text >>= fun _ => pure .reload : Operation Outcome).outcome.Calls
        (·.isGenerating = true) := by
    refine Operation.calls_bind ⟨rfl, ?_⟩ fun _ => trivial
    rintro (e | _)
    · exact ⟨rfl, fun _ => trivial⟩
    · refine ⟨rfl, ?_⟩
      rintro (e | _)
      · exact ⟨rfl, fun _ => trivial⟩
      · trivial
  have halerts := (Registry.calls_listing .alerts).mono Call.isGenerating_of_isRead
  have hrecipients := (Registry.calls_listing .recipients).mono Call.isGenerating_of_isRead
  have hsettings := Registry.calls_alertConfig.mono Call.isGenerating_of_isRead
  cases x with
  | state => nomatch h
  | route =>
    apply Operation.calls_bind
    · apply Operation.calls_bind hsettings
      intro _
      apply Operation.calls_bind halerts
      intro _
      exact Operation.calls_bind hrecipients fun _ => trivial
    · exact fun config => hreplace _ _
  | rule =>
    apply Operation.calls_bind
    · exact Operation.calls_bind halerts fun _ => trivial
    · exact fun rules => hreplace _ _
  | target =>
    have hhosts (environments : List Environment) : (environments.mapM fun e => do
        let hosts ← Operation.ofProgram (.ask (.hosts e.id))
        return (e, hosts) : Operation Inventory).outcome.Calls (·.isGenerating = true) := by
      induction environments with
      | nil => trivial
      | cons e environments ih =>
        rw [List.mapM_cons]
        apply Operation.calls_bind
        · exact Operation.calls_bind ⟨rfl, fun _ => trivial⟩ fun _ => trivial
        · exact fun _ => Operation.calls_bind ih fun _ => trivial
    apply Operation.calls_bind
    · exact Operation.calls_bind ⟨rfl, fun _ => trivial⟩ hhosts
    · intro i
      refine Operation.calls_bind ⟨rfl, fun _ => trivial⟩ fun present => ?_
      refine Operation.calls_bind trivial fun former => ?_
      refine Operation.calls_bind trivial fun merged => ?_
      exact Operation.calls_bind trivial fun text => hreplace _ _

/-- A sync of a file replaces it by what it has built, or fails and spares it. -/
theorem always_sync (h : x.file? s = some file) (fs : FileSystem) :
    Always answering.noted (x.Generates s file fs) (x.sync s).outcome (fs, []) := by
  cases x with
  | state => nomatch h
  | route =>
    obtain rfl := Option.some.inj h
    exact always_syncRoutes s fs
  | rule =>
    obtain rfl := Option.some.inj h
    exact always_syncRules s fs
  | target =>
    obtain rfl := Option.some.inj h
    exact always_syncTargets s fs

/-- However the calls of a sync are answered, but for one that removes a temporary file that is
there, which does not fail (`FileSystem.answering`): the sync ends well with the whole text in the
file that it has built, or it fails, the file is as it was, and no reload follows. -/
theorem replaces_or_spares {r : Except Error Outcome} {fs' : FileSystem}
    (hfile : x.file? s = some file)
    (hrun : (x.sync s).outcome.Runs answering.noted (fs, []) r (fs', l)) :
    (∀ o, r = .ok o → o = .reload ∧
      ∃ m text, x.Builds s fs m text ∧ m <+: l ∧ fs.Replaced fs' file text) ∧
    ∀ e, r = .error e → fs.Spared fs' file ∧ (∀ y ∈ l, y.call.isReload = false) ∧
      ∀ delay, (x.conclude delay (.error e)).Calls (·.isReload = false) := by
  obtain ⟨hreplaced, hspared⟩ := Program.always_iff.1 (always_sync hfile fs) _ _ hrun
  refine ⟨hreplaced, fun e he => ⟨hspared e he, ?_, ?_⟩⟩
  · have hcalls := (calls_sync hfile).mono Call.isReload_of_isGenerating
    have hnoted := hcalls.always_noted (R := answering) (s := fs) (l := []) fun _ hy => nomatch hy
    exact Program.always_iff.1 hnoted _ _ hrun
  · exact fun delay => ⟨rfl, fun _ => trivial⟩

/-- A world with an empty store and some files. -/
def sampleWorld (files : FileSystem) : World :=
  { World.start (.memory .empty) .told with files := files }

/-- Where the files are generated in it. -/
def sampleSyncSettings : SyncSettings := ⟨["routes.yml"], ["rules.yml"], ["scrape.yml"], .standard⟩

/-- A directory in the place of the rules. -/
def occupiedFiles : FileSystem := FileSystem.empty.put ["rules.yml"] .directory

/-- Rules are generated where there is nothing, and not where there is a directory. -/
theorem replaces_or_spares_rules :
    (∃ l fs' m text, (rule.sync sampleSyncSettings).outcome.Runs answering.noted
        (FileSystem.empty, []) (.ok .reload) (fs', l) ∧
      rule.Builds sampleSyncSettings .empty m text ∧ m <+: l ∧
      FileSystem.empty.Replaced fs' ["rules.yml"] text) ∧
    ∃ l fs', (rule.sync sampleSyncSettings).outcome.Runs answering.noted
        (occupiedFiles, []) (.error .io) (fs', l) ∧
      occupiedFiles.Spared fs' ["rules.yml"] ∧ ∀ y ∈ l, y.call.isReload = false := by
  have hok : ((sampleWorld .empty).run (rule.sync sampleSyncSettings).outcome).1 =
      .ok .reload := rfl
  have herror : ((sampleWorld occupiedFiles).run (rule.sync sampleSyncSettings).outcome).1 =
      .error .io := rfl
  obtain ⟨l, hrun⟩ := (sampleWorld .empty).exists_runs_files
    (rule.sync sampleSyncSettings).outcome []
  obtain ⟨l', hrun'⟩ := (sampleWorld occupiedFiles).exists_runs_files
    (rule.sync sampleSyncSettings).outcome []
  rw [hok] at hrun
  rw [herror] at hrun'
  obtain ⟨-, m, text, hbuilds, hprefix, hreplaced⟩ := (replaces_or_spares rfl hrun).1 _ rfl
  obtain ⟨hspared, hcalls, -⟩ := (replaces_or_spares rfl hrun').2 _ rfl
  exact ⟨⟨l, _, m, text, hrun, hbuilds, hprefix, hreplaced⟩, l', _, hrun', hspared, hcalls⟩

end Synchronizer

end AlertSync
