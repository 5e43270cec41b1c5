import AlertSync.Scrape.Merge

/-!
# What a merge of scrape jobs replaces

A merge puts the given jobs in the place of those in a file that have a managed name, and leaves
everything else in the file as it is (`Replaced`). Which jobs these are is said without the check
that the merge makes (`IsJobOf`, `isManaged_iff`): any value may stand among the jobs of a file.

Jobs that are merged into a file come back when it is merged into again. If they have managed names
they are recognised and left out then (`isManaged_tree`), so a merge takes the place of the ones
before it (`mergeScrapeJobs_of_merged`).
-/

namespace AlertSync

open Yaml (Value)

namespace ScrapeConfig

variable {managed : List ScrapeConfig}

/-- A job with a managed name is recognised in a file. -/
theorem isManaged_tree {c : ScrapeConfig} (h : c.jobName ∈ managedJobs) :
    isManaged (Yaml.ofTree c.tree) = true := by
  have hname : held? nameKey (Yaml.ofTree c.tree) = some (.string c.jobName) := rfl
  unfold isManaged
  rw [hname]
  exact List.contains_iff_mem.2 h

/-- The jobs that are built have managed names. -/
theorem jobName_mem_of_mem_build {inventory : Inventory} {ports : ExporterPorts} {c : ScrapeConfig}
    (h : c ∈ build inventory ports) : c.jobName ∈ managedJobs := by
  have hnames : (build inventory ports).map (·.jobName) = managedJobs := rfl
  rw [← hnames]
  exact List.mem_map_of_mem h

/-- What was merged before is not among the jobs of others. -/
theorem mergedJobs_mergedJobs (h : ∀ c ∈ managed, c.jobName ∈ managedJobs)
    (managed' : List ScrapeConfig) (present : Value) :
    mergedJobs managed' (mergedJobs managed present) = mergedJobs managed' present := by
  have hnone : (managed.map fun c => Yaml.ofTree c.tree).filter (fun v => !isManaged v) = [] := by
    rw [List.filter_eq_nil_iff]
    intro v hv
    obtain ⟨c, hc, rfl⟩ := List.mem_map.1 hv
    rw [isManaged_tree (h c hc)]
    exact Bool.false_ne_true
  unfold mergedJobs
  simp only [List.filter_append, hnone, List.nil_append]
  congr 2
  -- Of the jobs that are left none is left out a second time.
  split
  · exact List.filter_filter.trans (List.filter_congr fun v _ => Bool.and_self _)
  · rfl

/-- The entry that holds the jobs stays where it is, or is the last one. -/
theorem mergedEntries_mergedEntries (h : ∀ c ∈ managed, c.jobName ∈ managedJobs)
    (managed' : List ScrapeConfig) (entries : List (Value × Value)) :
    mergedEntries managed' (mergedEntries managed entries) = mergedEntries managed' entries := by
  induction entries with
  | nil =>
    have hjobs := mergedJobs_mergedJobs h managed' .null
    exact congrArg (fun v => [(Value.string jobsKey, v)]) hjobs
  | cons e rest ih =>
    obtain ⟨k, v⟩ := e
    rw [mergedEntries, mergedEntries]
    split
    · next hkey => rw [mergedEntries, if_pos hkey, mergedJobs_mergedJobs h]
    · next hkey => rw [mergedEntries, if_neg hkey, ih]

end ScrapeConfig

/-- A merge takes the place of one before it. -/
theorem mergeScrapeJobs_of_merged {document merged : Value} {managed : List ScrapeConfig}
    (h : ∀ c ∈ managed, c.jobName ∈ ScrapeConfig.managedJobs)
    (hmerged : mergeScrapeJobs document managed = .ok merged) (managed' : List ScrapeConfig) :
    mergeScrapeJobs merged managed' = mergeScrapeJobs document managed' := by
  have hentries := ScrapeConfig.mergedEntries_mergedEntries h managed'
  unfold mergeScrapeJobs at hmerged
  split at hmerged
  · obtain rfl := Except.ok.inj hmerged
    exact congrArg (Except.ok ∘ Value.mapping) (hentries [])
  · next entries =>
    obtain rfl := Except.ok.inj hmerged
    exact congrArg (Except.ok ∘ Value.mapping) (hentries entries)
  · nomatch hmerged

/-! ## What is kept -/

namespace ScrapeConfig

/-- Whether a value is a job of a name: a mapping, under whatever tags, whose first entry for the
name holds it as text. -/
def IsJobOf (name : String) (v : Value) : Prop :=
  ∃ before held after, v.untagged = .mapping (before ++ (.string nameKey, held) :: after) ∧
    (∀ e ∈ before, e.1 ≠ .string nameKey) ∧ held.untagged = .string name

/-- Whether a value is a job of one of the managed names. -/
def IsReserved (v : Value) : Prop := ∃ name ∈ managedJobs, IsJobOf name v

/-- A key is found where it stands as text without a tag. -/
theorem isKey_iff {key : String} {v : Value} : isKey key v = true ↔ v = .string key := by
  cases v with
  | string s => simp [isKey]
  | null | bool | number | sequence | mapping | tagged => simp [isKey]

/-- What a value holds under a key is what its first entry for the key holds. -/
theorem held?_eq_some_iff {key : String} {v held : Value} :
    held? key v = some held ↔ ∃ before after,
      v.untagged = .mapping (before ++ (.string key, held) :: after) ∧
        ∀ e ∈ before, e.1 ≠ .string key := by
  unfold held?
  constructor
  · intro h
    split at h
    · next entries hentries =>
      obtain ⟨⟨k, _⟩, hfind, rfl⟩ := Option.map_eq_some_iff.1 h
      obtain ⟨hkey, before, after, rfl, hbefore⟩ := List.find?_eq_some_iff_append.1 hfind
      obtain rfl : k = .string key := isKey_iff.1 hkey
      refine ⟨before, after, hentries, fun e he hsame => ?_⟩
      have hno := hbefore e he
      rw [isKey_iff.2 hsame] at hno
      nomatch hno
    · nomatch h
  · rintro ⟨before, after, hentries, hbefore⟩
    have hfind : (before ++ (Value.string key, held) :: after).find? (fun e => isKey key e.1) =
        some (.string key, held) := by
      refine List.find?_eq_some_iff_append.2 ⟨isKey_iff.2 rfl, before, after, rfl, fun e he => ?_⟩
      rw [Bool.not_eq_true', Bool.eq_false_iff]
      exact fun hkey => hbefore e he (isKey_iff.1 hkey)
    rw [hentries]
    exact congrArg (Option.map (·.2)) hfind

/-- What the merge takes for a managed job is one. -/
theorem isManaged_iff {v : Value} : isManaged v = true ↔ IsReserved v := by
  unfold isManaged
  constructor
  · intro h
    split at h
    · next name hname =>
      obtain ⟨held, hheld, htext⟩ := Option.map_eq_some_iff.1 hname
      obtain ⟨before, after, hentries, hbefore⟩ := held?_eq_some_iff.1 hheld
      exact ⟨name, List.contains_iff_mem.1 h, before, held, after, hentries, hbefore, htext⟩
    · nomatch h
  · rintro ⟨name, hmem, before, held, after, hentries, hbefore, htext⟩
    have hheld : held? nameKey v = some held :=
      held?_eq_some_iff.2 ⟨before, after, hentries, hbefore⟩
    rw [hheld, Option.map_some, htext]
    exact List.contains_iff_mem.2 hmem

instance : DecidablePred IsReserved := fun _ => decidable_of_iff _ isManaged_iff

/-- The jobs of others that the entry for jobs holds. -/
def othersIn : Value → List Value
  | .sequence jobs => jobs.filter fun v => ¬ IsReserved v
  | _ => []

/-- What becomes of the entries of a file when jobs are put into it: the jobs are held in front of
those of others that were there, where the jobs were held before, or behind all else. -/
inductive Replaced (jobs : List Value) : List (Value × Value) → List (Value × Value) → Prop
  | absent {entries : List (Value × Value)} (h : ∀ e ∈ entries, e.1 ≠ .string jobsKey) :
      Replaced jobs entries (entries ++ [(.string jobsKey, .sequence jobs)])
  | present {before after : List (Value × Value)} (held : Value)
      (h : ∀ e ∈ before, e.1 ≠ .string jobsKey) :
      Replaced jobs (before ++ (.string jobsKey, held) :: after)
        (before ++ (.string jobsKey, .sequence (jobs ++ othersIn held)) :: after)

/-- The jobs of a file after a merge: those that were put in, and those of others. -/
theorem mergedJobs_eq (managed : List ScrapeConfig) (present : Value) :
    mergedJobs managed present =
      .sequence (managed.map (fun c => Yaml.ofTree c.tree) ++ othersIn present) := by
  cases present with
  | sequence jobs =>
    have hothers : jobs.filter (fun v => !isManaged v) = othersIn (.sequence jobs) := by
      refine List.filter_congr fun v _ => ?_
      rw [← decide_eq_decide.2 (not_congr isManaged_iff), decide_not, Bool.decide_eq_true]
    exact congrArg (fun others => Value.sequence (_ ++ others)) hothers
  | null | bool | number | string | mapping | tagged => rfl

/-- An entry in front that is not the one for jobs stays there. -/
theorem Replaced.cons {jobs : List Value} {entries merged : List (Value × Value)}
    {e : Value × Value} (h : Replaced jobs entries merged) (he : e.1 ≠ .string jobsKey) :
    Replaced jobs (e :: entries) (e :: merged) := by
  cases h with
  | absent hno => exact .absent (List.forall_mem_cons.2 ⟨he, hno⟩)
  | present held hno => exact Replaced.present held (List.forall_mem_cons.2 ⟨he, hno⟩)

/-- The jobs are put among the entries, and all else is left. -/
theorem replaced_mergedEntries (managed : List ScrapeConfig) (entries : List (Value × Value)) :
    Replaced (managed.map fun c => Yaml.ofTree c.tree) entries (mergedEntries managed entries) := by
  induction entries with
  | nil =>
    have hnone : othersIn .null = [] := rfl
    rw [mergedEntries, mergedJobs_eq, hnone, List.append_nil]
    exact Replaced.absent (List.forall_mem_nil _)
  | cons e rest ih =>
    obtain ⟨k, held⟩ := e
    rw [mergedEntries]
    split
    · next hkey =>
      obtain rfl := isKey_iff.1 hkey
      rw [mergedJobs_eq]
      exact Replaced.present held (List.forall_mem_nil _)
    · next hkey => exact ih.cons fun hsame => hkey (isKey_iff.2 hsame)

end ScrapeConfig

open ScrapeConfig in
/-- A merge puts its jobs in the place of the managed ones of a file, and leaves all else; what is
no file of entries is refused. Of two merges, the first of which had managed jobs only, the second
counts. -/
theorem mergeScrapeJobs_replaces (document : Value) (managed : List ScrapeConfig) :
    (∀ entries, document = .mapping entries ∨ document = .null ∧ entries = [] →
      ∃ merged, mergeScrapeJobs document managed = .ok (.mapping merged) ∧
        Replaced (managed.map fun c => Yaml.ofTree c.tree) entries merged) ∧
    (document ≠ .null → (∀ entries, document ≠ .mapping entries) →
      mergeScrapeJobs document managed = .error (.misconfigured .scrapeFileNotMapping)) ∧
    ((∀ c ∈ managed, c.jobName ∈ managedJobs) → ∀ managed',
      (mergeScrapeJobs document managed).bind (mergeScrapeJobs · managed') =
        mergeScrapeJobs document managed') := by
  refine ⟨?_, fun hnull hmapping => ?_, fun hnames managed' => ?_⟩
  · rintro entries (rfl | ⟨rfl, rfl⟩) <;> exact ⟨_, rfl, replaced_mergedEntries managed _⟩
  · unfold mergeScrapeJobs
    split
    · exact absurd rfl hnull
    · next entries => exact absurd rfl (hmapping entries)
    · rfl
  · cases hmerged : mergeScrapeJobs document managed with
    | ok merged => exact mergeScrapeJobs_of_merged hnames hmerged managed'
    | error e =>
      -- What was refused once is refused again.
      unfold mergeScrapeJobs at hmerged ⊢
      split at hmerged
      · nomatch hmerged
      · nomatch hmerged
      · exact hmerged.symm

/-- The entries of a file that holds a job of others, an outdated managed job under a tag, and
values that are no jobs. -/
def sampleEntries : List (Value × Value) :=
  [(.string "global", .mapping []),
    (.string ScrapeConfig.jobsKey, .sequence
      [.mapping [(.string "job_name", .string "prometheus")],
        .tagged "old" (.mapping [(.string "job_name", .string "cadvisor")]),
        .string "cadvisor", .mapping [(.string "job_name", .bool true)]]),
    (.string "rule_files", .sequence [])]

open ScrapeConfig in
/-- In that file the outdated job alone is replaced, and what is put in twice is there once; a list
is no such file. -/
theorem mergeScrapeJobs_replaces_sample :
    (∃ merged,
      mergeScrapeJobs (.mapping sampleEntries) (build [] .standard) = .ok (.mapping merged) ∧
      Replaced ((build [] .standard).map fun c => Yaml.ofTree c.tree) sampleEntries merged) ∧
    mergeScrapeJobs (.sequence []) [] = .error (.misconfigured .scrapeFileNotMapping) ∧
    (mergeScrapeJobs (.mapping sampleEntries) (build [] .standard)).bind
      (mergeScrapeJobs · []) = mergeScrapeJobs (.mapping sampleEntries) [] :=
  ⟨(mergeScrapeJobs_replaces _ _).1 sampleEntries (.inl rfl),
    (mergeScrapeJobs_replaces (.sequence []) []).2.1 nofun nofun,
    (mergeScrapeJobs_replaces (.mapping sampleEntries) (build [] .standard)).2.2
      (fun _ => jobName_mem_of_mem_build) []⟩

end AlertSync
