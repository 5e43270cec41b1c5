import AlertSync.Proofs.Generating
import AlertSync.Proofs.Scrape.Merging
import AlertSync.Proofs.Yaml.RoundTrip

/-!
# The scrape file over many ticks

A tick of the target synchronizer merges its jobs into what the tick before it has left, and may
fail at any step. Still the file depends on one tick only: as long as none has succeeded it is as it
was at first, and then it holds the first document with the jobs of the latest tick that succeeded
(`read_of_tries`).

After every tick the document in the file takes jobs as the first one does, because a merge takes
the place of those before it and a tick that fails spares the file (`stands_of_tries`).
-/

namespace AlertSync

open FileSystem (answering)
open Yaml (Value)

/-! ## The inventory of a tick -/

/-- The hosts that were listed, if that was asked for. -/
def Reply.listedHosts : Reply → List Host
  | ⟨.hosts _, .ok hosts⟩ => hosts
  | _ => []

/-- What the platform has listed first is one inventory. -/
theorem Inventory.eq_of_replies_prefix {i j : Inventory} {l : List Reply}
    (hi : i.replies <+: l) (hj : j.replies <+: l) : i = j := by
  have hhead {k : Inventory} (hk : k.replies <+: l) :
      l.head? = some ⟨.environments, .ok (k.map (·.1))⟩ := by
    obtain ⟨rest, rfl⟩ := hk
    rfl
  have henvironments : i.map (·.1) = j.map (·.1) := by
    have hsame := Option.some.inj ((hhead hi).symm.trans (hhead hj))
    injection hsame with _ hanswer
    exact Except.ok.inj hanswer
  -- The environments that were listed say how many replies follow.
  have hreplies : i.replies = j.replies := by
    have hlength : i.replies.length = j.replies.length := by
      have hcount := congrArg List.length henvironments
      rw [List.length_map, List.length_map] at hcount
      rw [replies, replies, hostReplies, hostReplies, List.length_cons, List.length_cons,
        List.length_map, List.length_map, hcount]
    exact (List.prefix_of_prefix_length_le hi hj hlength.le).eq_of_length hlength
  have hhosts : i.map (·.2) = j.map (·.2) := by
    have hlisted (k : Inventory) : k.hostReplies.map Reply.listedHosts = k.map (·.2) := by
      unfold hostReplies
      rw [List.map_map]
      rfl
    rw [← hlisted i, ← hlisted j, (List.cons.inj hreplies).2]
  have hzip (k : Inventory) : (k.map (·.1)).zip (k.map (·.2)) = k := by
    rw [List.zip_map']
    exact List.map_id k
  rw [← hzip i, ← hzip j, henvironments, hhosts]

/-! ## One tick -/

/-- One sync that was tried: how it ended, and what it was answered. -/
structure Attempt where
  result : Except Error Outcome
  replies : List Reply

/-- Whether a sync has failed. -/
def Attempt.Failed (a : Attempt) : Prop := ∃ e, a.result = .error e

namespace Synchronizer

/-- Whether a synchronizer that tries one sync after the other leads from some files to others. -/
inductive Tries (x : Synchronizer) (s : SyncSettings) (fs : FileSystem) :
    List Attempt → FileSystem → Prop
  | start : Tries x s fs [] fs
  | next {attempts : List Attempt} {fs' fs'' : FileSystem} {a : Attempt}
      (h : Tries x s fs attempts fs')
      (hrun : (x.sync s).outcome.Runs answering.noted (fs', []) a.result (fs'', a.replies)) :
      Tries x s fs (attempts ++ [a]) fs''

/-- Whether a document takes the jobs for an inventory, and the text of what that makes. -/
structure Merges (s : SyncSettings) (d : Value) (i : Inventory) (v : Value) (text : String) :
    Prop where
  merged : mergeScrapeJobs d (ScrapeConfig.build i s.ports) = .ok v
  rendered : Yaml.text? v = some text

/-- A document and an inventory make one document and one text. -/
theorem Merges.unique {s : SyncSettings} {d v v' : Value} {i : Inventory} {text text' : String}
    (h : Merges s d i v text) (h' : Merges s d i v' text') : v' = v ∧ text' = text := by
  obtain rfl := Except.ok.inj (h'.merged.symm.trans h.merged)
  exact ⟨rfl, Option.some.inj (h'.rendered.symm.trans h.rendered)⟩

/-- A text holds a document if it can be read as one. -/
theorem document_eq_ok {text : String} {v : Value} :
    document text = .ok v ↔ Yaml.value? text = some v := by
  unfold document
  cases Yaml.value? text with
  | none => exact iff_of_false nofun nofun
  | some d => exact ⟨fun h => congrArg some (Except.ok.inj h),
      fun h => congrArg Except.ok (Option.some.inj h)⟩

/-- A document has a text if it can be printed. -/
theorem documentText_eq_ok {text : String} {v : Value} :
    documentText v = .ok text ↔ Yaml.text? v = some text := by
  unfold documentText
  cases Yaml.text? v with
  | none => exact iff_of_false nofun nofun
  | some t => exact ⟨fun h => congrArg some (Except.ok.inj h),
      fun h => congrArg Except.ok (Option.some.inj h)⟩

variable {s : SyncSettings} {fs fs' : FileSystem} {d former : Value} {present initial : String}
  {attempts : List Attempt} {a : Attempt}

/-- A tick that fails leaves the file, and one that succeeds has merged the jobs for its inventory
into what was there. -/
theorem tick_cases (hpresent : fs.read s.scrapeFile = .ok present)
    (hformer : Yaml.value? present = some former)
    (hrun : (target.sync s).outcome.Runs answering.noted (fs, []) a.result (fs', a.replies)) :
    a.Failed ∧ fs'.read s.scrapeFile = .ok present ∨
      a.result = .ok .reload ∧ ∃ i v text, i.replies <+: a.replies ∧ Merges s former i v text ∧
        fs'.read s.scrapeFile = .ok text := by
  obtain ⟨hreplaced, hspared⟩ := replaces_or_spares (x := .target) rfl hrun
  cases hresult : a.result with
  | error e => exact .inl ⟨⟨e, hresult⟩, (hspared e hresult).1.read.trans hpresent⟩
  | ok o =>
    obtain ⟨rfl, l, text, hbuilds, hl, hnew⟩ := hreplaced o hresult
    refine .inr ⟨rfl, ?_⟩
    cases hbuilds with
    | @target i present' _ former' v hread hdocument hmerged htext =>
      obtain rfl := Except.ok.inj (hread.symm.trans hpresent)
      obtain rfl := Option.some.inj ((document_eq_ok.1 hdocument).symm.trans hformer)
      exact ⟨i, v, text, (List.prefix_append _ _).trans hl, ⟨hmerged, documentText_eq_ok.1 htext⟩,
        hnew.read⟩

/-- The platform may list the hosts of an inventory. -/
theorem runs_hosts (i : Inventory) (fs : FileSystem) (l : List Reply) :
    ((i.map (·.1)).mapM fun e => do
        let hosts ← Operation.ofProgram (.ask (.hosts e.id))
        return (e, hosts) : Operation Inventory).outcome.Runs answering.noted (fs, l) (.ok i)
      (fs, l ++ i.hostReplies) := by
  induction i generalizing l with
  | nil =>
    have hnone : l ++ Inventory.hostReplies [] = l := l.append_nil
    rw [hnone]
    exact ⟨rfl, rfl⟩
  | cons e i ih =>
    obtain ⟨e, hosts⟩ := e
    have hask : (Program.ask (.hosts e.id)).Runs answering.noted (fs, l) (.ok hosts)
        (fs, l ++ [⟨.hosts e.id, .ok hosts⟩]) := Program.runs_ask_noted rfl
    have hrest := ih (l ++ [⟨.hosts e.id, .ok hosts⟩])
    rw [List.append_assoc] at hrest
    rw [List.map_cons, List.mapM_cons]
    refine Operation.runs_bind (a := (e, hosts)) ?_ (Operation.runs_bind hrest ⟨rfl, rfl⟩)
    exact Operation.runs_bind (o := Operation.ofProgram (.ask (.hosts e.id))) hask ⟨rfl, rfl⟩

/-- A tick may succeed if the file can be read and replaced, and its document takes the jobs. -/
theorem runs_syncTargets {i : Inventory} {v : Value} {text : String} {fs₁ fs₂ : FileSystem}
    (hpresent : fs.read s.scrapeFile = .ok present) (hformer : Yaml.value? present = some former)
    (hmerges : Merges s former i v text)
    (hwrite : fs.write s.scrapeFile.temporary text = .ok fs₁)
    (hmove : fs₁.move s.scrapeFile.temporary s.scrapeFile = .ok fs₂) :
    ∃ l, (target.sync s).outcome.Runs answering.noted (fs, []) (.ok .reload)
      (fs₂, i.replies ++ l) := by
  have hlist : (Program.ask .environments).Runs answering.noted (fs, []) (.ok (i.map (·.1)))
      (fs, [⟨.environments, .ok (i.map (·.1))⟩]) := Program.runs_ask_noted rfl
  have hdiscover : discover.outcome.Runs answering.noted (fs, []) (.ok i) (fs, i.replies) :=
    Operation.runs_bind (o := Operation.ofProgram (.ask .environments)) hlist (runs_hosts i fs _)
  have hread : (Program.ask (.readFile s.scrapeFile)).Runs answering.noted (fs, i.replies)
      (.ok present) (fs, i.replies ++ [⟨.readFile s.scrapeFile, .ok present⟩]) :=
    Program.runs_ask_noted ⟨rfl, .inl hpresent.symm⟩
  have hreplace (l : List Reply) : (Artifact.write s.scrapeFile text).outcome.Runs answering.noted
      (fs, l) (.ok ()) (fs₂, l ++ [⟨.writeFile s.scrapeFile.temporary text, .ok ()⟩] ++
        [⟨.moveFile s.scrapeFile.temporary s.scrapeFile, .ok ()⟩]) :=
    ⟨.ok (), (fs₁, _), ⟨.inl ⟨rfl, hwrite⟩, rfl⟩, .ok (), (fs₂, _), ⟨.inl ⟨rfl, hmove⟩, rfl⟩,
      rfl, rfl⟩
  refine ⟨[⟨.readFile s.scrapeFile, .ok present⟩] ++
    ([⟨.writeFile s.scrapeFile.temporary text, .ok ()⟩] ++
      [⟨.moveFile s.scrapeFile.temporary s.scrapeFile, .ok ()⟩]), ?_⟩
  rw [← List.append_assoc, ← List.append_assoc]
  unfold sync syncTargets
  apply Operation.runs_bind hdiscover
  apply Operation.runs_bind (o := Operation.ofProgram (.ask (.readFile s.scrapeFile))) hread
  rw [document_eq_ok.2 hformer]
  apply Operation.runs_bind (o := Operation.ofExcept (.ok former)) ⟨rfl, rfl⟩
  rw [hmerges.merged]
  apply Operation.runs_bind (o := Operation.ofExcept (.ok v)) ⟨rfl, rfl⟩
  rw [documentText_eq_ok.2 hmerges.rendered]
  apply Operation.runs_bind (o := Operation.ofExcept (.ok text)) ⟨rfl, rfl⟩
  exact Operation.runs_bind (hreplace _) ⟨rfl, rfl⟩

/-! ## Any number of ticks -/

/-- What the scrape file is after some ticks: the first text as long as all have failed, and then
that of the first document with the jobs of the latest tick that succeeded. -/
structure Stands (s : SyncSettings) (initial : String) (d : Value) (attempts : List Attempt)
    (fs : FileSystem) (text : String) (v : Value) : Prop where
  read : fs.read s.scrapeFile = .ok text
  value : Yaml.value? text = some v
  /-- The document takes jobs as the first one does. -/
  merges : ∀ managed, mergeScrapeJobs v managed = mergeScrapeJobs d managed
  origin : (∀ a ∈ attempts, a.Failed) ∧ text = initial ∨
    ∃ before a after i, attempts = before ++ a :: after ∧ a.result = .ok .reload ∧
      (∀ b ∈ after, b.Failed) ∧ i.replies <+: a.replies ∧ Merges s d i v text

/-- After every tick the file is what it should be, if what the ticks write reads back. -/
theorem stands_of_tries (hread : fs.read s.scrapeFile = .ok initial)
    (hinitial : Yaml.value? initial = some d) (htries : target.Tries s fs attempts fs')
    (hback : ∀ a ∈ attempts, a.result = .ok .reload → ∀ i v text, i.replies <+: a.replies →
      Merges s d i v text → Yaml.value? text = some v) :
    ∃ text v, Stands s initial d attempts fs' text v := by
  induction htries with
  | start => exact ⟨initial, d, hread, hinitial, fun _ => rfl, .inl ⟨nofun, rfl⟩⟩
  | @next attempts fs₁ fs₂ a _ hrun ih =>
    obtain ⟨present, former, hpresent, hformer, hmerges, horigin⟩ :=
      ih fun b hb => hback b (List.mem_append_left _ hb)
    obtain ⟨hfailed, hkept⟩ | ⟨hok, i, v, text, hi, hnew, htext⟩ := tick_cases hpresent hformer hrun
    · refine ⟨present, former, hkept, hformer, hmerges, ?_⟩
      obtain ⟨hall, rfl⟩ | ⟨before, b, after, i, rfl, hok, hafter, hi, hmerge⟩ := horigin
      · exact .inl ⟨List.forall_mem_append.2 ⟨hall, List.forall_mem_singleton.2 hfailed⟩, rfl⟩
      · exact .inr ⟨before, b, after ++ [a], i, List.append_assoc _ _ _, hok,
          List.forall_mem_append.2 ⟨hafter, List.forall_mem_singleton.2 hfailed⟩, hi, hmerge⟩
    · -- The jobs take the place of those of earlier ticks.
      have hmerge : Merges s d i v text := ⟨(hmerges _).symm.trans hnew.merged, hnew.rendered⟩
      refine ⟨text, v, htext, ?_, ?_, ?_⟩
      · exact hback a (List.mem_append_right _ (List.mem_singleton_self a)) hok i v text hi hmerge
      · exact mergeScrapeJobs_of_merged (fun c => ScrapeConfig.jobName_mem_of_mem_build)
          hmerge.merged
      · exact .inr ⟨attempts, a, [], i, rfl, hok, nofun, hi, hmerge⟩

/-- After every tick the scrape file is as at first, if none has succeeded, or it holds the first
document with the jobs for the inventory of the latest tick that did; and no further tick with that
inventory changes it. What the ticks write has to read back. -/
theorem read_of_tries (hread : fs.read s.scrapeFile = .ok initial)
    (hinitial : Yaml.value? initial = some d) (htries : target.Tries s fs attempts fs')
    (hback : ∀ a ∈ attempts, a.result = .ok .reload → ∀ i v text, i.replies <+: a.replies →
      Merges s d i v text → Yaml.value? text = some v) :
    (∀ a ∈ attempts, a.Failed) ∧ fs'.read s.scrapeFile = .ok initial ∨
    ∃ before a after i v text, attempts = before ++ a :: after ∧ a.result = .ok .reload ∧
      (∀ b ∈ after, b.Failed) ∧ i.replies <+: a.replies ∧
      mergeScrapeJobs d (ScrapeConfig.build i s.ports) = .ok v ∧
      fs'.read s.scrapeFile = .ok text ∧ Yaml.text? v = some text ∧ Yaml.value? text = some v ∧
      ∀ (b : Attempt) (fs'' : FileSystem),
        (target.sync s).outcome.Runs answering.noted (fs', []) b.result (fs'', b.replies) →
          i.replies <+: b.replies → fs''.read s.scrapeFile = .ok text := by
  obtain ⟨text, v, hstands⟩ := stands_of_tries hread hinitial htries hback
  obtain ⟨hall, rfl⟩ | ⟨before, a, after, i, heq, hok, hafter, hi, hmerge⟩ := hstands.origin
  · exact .inl ⟨hall, hstands.read⟩
  · refine .inr ⟨before, a, after, i, v, text, heq, hok, hafter, hi, hmerge.merged, hstands.read,
      hmerge.rendered, hstands.value, ?_⟩
    intro b fs'' hrun hb
    obtain ⟨-, hkept⟩ | ⟨-, j, w, text', hj, hnew, htext⟩ :=
      tick_cases hstands.read hstands.value hrun
    · exact hkept
    · -- The same jobs are merged again, so the document and its text are the same.
      obtain rfl := Inventory.eq_of_replies_prefix hb hj
      have hagain : Merges s d i w text' :=
        ⟨(hstands.merges _).symm.trans hnew.merged, hnew.rendered⟩
      rw [htext, (hmerge.unique hagain).2]

/-- A document with an entry of somebody else. -/
def sampleDocument : Value := .mapping [(.string "rule_files", .sequence [])]

/-- An environment with two hosts, of which one publishes the port of the third job. -/
def sampleInventory : Inventory :=
  [(⟨"1a5", "Default"⟩,
    [⟨"1h1", "10.42.0.7", [⟨9173, "10.42.0.7"⟩]⟩, ⟨"1h2", "10.42.0.8", []⟩])]

/-- A job that collects some targets of the environment. -/
def sampleJob (name : String) (targets : List String) : Tree :=
  .record [("job_name", .text name), ("static_configs", .list [.record [("targets", .texts targets),
    ("labels", .record [("environment_id", .text "1a5"), ("environment_name", .text "Default")])]])]

/-- That document with the jobs for the inventory. -/
def sampleMerged : Tree :=
  .record [("rule_files", .list []), ("scrape_configs", .list
    [sampleJob "cadvisor" ["10.42.0.7:9101", "10.42.0.8:9101"],
      sampleJob "node-exporter" ["10.42.0.7:9100", "10.42.0.8:9100"],
      sampleJob "rancher-health-exporter" ["10.42.0.7:9173"]])]

/-- The text of the document. -/
def sampleInitial : String := "rule_files: []\n"

/-- The text of the document with the jobs. -/
def sampleScrapeText : String := Yaml.text (Yaml.ofTree sampleMerged)

/-- The scrape file, and nothing else. -/
def sampleScrapeFiles (text : String) : FileSystem := ⟨[(["scrape.yml"], .file text)]⟩

/-- A tick to which the platform did not answer. -/
def failedTick : Attempt := ⟨.error (.http .request), [⟨.environments, .error (.http .request)⟩]⟩

theorem merges_sample : Merges sampleSyncSettings sampleDocument sampleInventory
    (Yaml.ofTree sampleMerged) sampleScrapeText where
  merged := rfl
  rendered := if_pos rfl

theorem value?_sampleScrapeText :
    Yaml.value? sampleScrapeText = some (Yaml.ofTree sampleMerged) := by
  unfold Yaml.value? Yaml.Document.parse? sampleScrapeText
  rw [Yaml.document?_text]
  decide +kernel

/-- A tick that succeeds, and one that fails, leave the entry and the jobs in the file. -/
theorem read_of_tries_sample : ∃ l fs', target.Tries sampleSyncSettings
      (sampleScrapeFiles sampleInitial)
      [⟨.ok .reload, sampleInventory.replies ++ l⟩, failedTick] fs' ∧
    fs'.read ["scrape.yml"] = .ok sampleScrapeText ∧
    Yaml.value? sampleScrapeText = some (Yaml.ofTree sampleMerged) := by
  have hinitial : Yaml.value? sampleInitial = some sampleDocument := by decide +kernel
  have hvalue := value?_sampleScrapeText
  have hread (text : String) : (sampleScrapeFiles text).read ["scrape.yml"] = .ok text := rfl
  have hpath : FilePath.temporary ["scrape.yml"] = ["scrape.yml.tmp"] := by decide
  have hwrite (text text' : String) : (sampleScrapeFiles text).write
      (FilePath.temporary ["scrape.yml"]) text' =
        .ok ((sampleScrapeFiles text).put ["scrape.yml.tmp"] (.file text')) := by
    rw [hpath]
    rfl
  have hmove (text text' : String) :
      ((sampleScrapeFiles text).put ["scrape.yml.tmp"] (.file text')).move
        (FilePath.temporary ["scrape.yml"]) ["scrape.yml"] = .ok (sampleScrapeFiles text') := by
    rw [hpath]
    rfl
  obtain ⟨l, hrun⟩ := runs_syncTargets (s := sampleSyncSettings) (hread sampleInitial) hinitial
    merges_sample (hwrite sampleInitial sampleScrapeText) (hmove sampleInitial sampleScrapeText)
  have hfailed : (target.sync sampleSyncSettings).outcome.Runs answering.noted
      (sampleScrapeFiles sampleScrapeText, []) failedTick.result
      (sampleScrapeFiles sampleScrapeText, failedTick.replies) :=
    ⟨.error (.http .request), (sampleScrapeFiles sampleScrapeText, failedTick.replies),
      ⟨rfl, rfl⟩, rfl, rfl⟩
  have hfirst : target.Tries sampleSyncSettings (sampleScrapeFiles sampleInitial)
      [⟨.ok .reload, sampleInventory.replies ++ l⟩] (sampleScrapeFiles sampleScrapeText) :=
    .next .start hrun
  have htries : target.Tries sampleSyncSettings (sampleScrapeFiles sampleInitial)
      [⟨.ok .reload, sampleInventory.replies ++ l⟩, failedTick]
      (sampleScrapeFiles sampleScrapeText) :=
    hfirst.next hfailed
  -- Only the first tick succeeded, and it found the inventory.
  have hsame (a : Attempt) (ha : a ∈ [⟨.ok .reload, sampleInventory.replies ++ l⟩, failedTick])
      (hok : a.result = .ok .reload) {i : Inventory} (hi : i.replies <+: a.replies) :
      i = sampleInventory := by
    obtain rfl | ha := List.mem_cons.1 ha
    · exact Inventory.eq_of_replies_prefix hi (List.prefix_append _ l)
    · obtain rfl := List.mem_singleton.1 ha
      nomatch hok
  refine ⟨l, _, htries, ?_, hvalue⟩
  have hfile := read_of_tries (hread sampleInitial) hinitial htries
    fun a ha hok i v text hi hmerges => by
      obtain rfl := hsame a ha hok hi
      obtain ⟨rfl, rfl⟩ := merges_sample.unique hmerges
      exact hvalue
  obtain ⟨hall, -⟩ | ⟨_, a, _, i, v, text, heq, hok, -, hi, hmerged, htext, hrendered, -⟩ := hfile
  · obtain ⟨e, he⟩ := hall _ List.mem_cons_self
    nomatch he
  · obtain rfl := hsame a (heq ▸ List.mem_append_right _ List.mem_cons_self) hok hi
    exact htext.trans (congrArg Except.ok (merges_sample.unique ⟨hmerged, hrendered⟩).2)

end Synchronizer

end AlertSync
