import AlertSync.Proofs.Files.Replacing
import AlertSync.Proofs.Program.Replies

/-!
# A file is replaced whole or not at all

A call that changes a file does its change, or fails and changes nothing; only a write that fails
may leave a part behind of what was to be written, and a file that is there can always be removed
(`FileSystem.answering`). However the calls go by
which a file is replaced, it then has its new contents and nothing is beside it
(`FileSystem.Replaced`), or it is what it was, and what was written beside it is gone
(`FileSystem.Spared`).

What is written beside a file does not get into its place, because a path under which there may be a
file leads to a place of the same name (`exists_name_of_fileAt?`): any other step leads to a
directory, since all places on the way are directories (`isOpen_of_go?`).
-/

namespace AlertSync

namespace FileSystem

variable {fs fs' : FileSystem} {p q : FilePath} {text : String}

/-! ## The places to which paths lead -/

/-- Whether every step on the way to a place is from a directory. -/
def IsOpen (fs : FileSystem) (q : FilePath) : Prop :=
  ∀ d name, d ++ [name] <+: q → fs.isDirectory d = true

/-- One step from a directory. -/
theorem IsOpen.concat (h : fs.IsOpen q) (hq : fs.isDirectory q = true) (name : String) :
    fs.IsOpen (q ++ [name]) := by
  intro d last hd
  obtain heq | hprefix := List.prefix_concat_iff.1 hd
  · rw [List.append_inj_left' heq rfl]
    exact hq
  · exact h d last hprefix

/-- One step back. -/
theorem IsOpen.outer (h : fs.IsOpen q) (hq : fs.isDirectory q = true) : fs.IsOpen q.outer := by
  unfold FilePath.outer
  split
  · exact h.concat hq _
  · exact fun d name hd => h d name (hd.trans q.dropLast_prefix)

/-- Around a place there is a directory. -/
theorem IsOpen.isDirectory_outer (h : fs.IsOpen q) : fs.isDirectory q.outer = true := by
  unfold FilePath.outer
  split
  · next hback =>
    have hall : (q ++ [FilePath.back]).all (· == FilePath.back) = true := by
      rw [List.all_append, hback]
      rfl
    unfold isDirectory find?
    rw [if_pos hall]
    rfl
  · next hback =>
    have hne : q ≠ [] := fun heq => hback (heq ▸ rfl)
    apply h _ (q.getLast hne)
    rw [List.dropLast_append_getLast hne]

/-- Every step of a path is from a directory. -/
theorem isDirectory_of_go?_cons {place rest : FilePath} {name : String}
    (h : fs.go? place (name :: rest) = some q) : fs.isDirectory place = true := by
  rw [go?] at h
  split at h
  · contradiction
  · next hgo =>
    rw [Bool.or_eq_true, not_or, Bool.not_eq_true', Bool.not_eq_false] at hgo
    exact hgo.1

/-- What a step of a path does. -/
theorem go?_cons_cases {place rest : FilePath} {name : String}
    (h : fs.go? place (name :: rest) = some q) :
    name = "" ∧ fs.go? place rest = some q ∨
      name = FilePath.back ∧ fs.go? place.outer rest = some q ∨
      name ≠ "" ∧ name ≠ FilePath.back ∧ fs.go? (place ++ [name]) rest = some q := by
  rw [go?] at h
  split at h
  · contradiction
  · split at h
    · next hname => exact .inl ⟨hname, h⟩
    · next hname =>
      split at h
      · next hback => exact .inr (.inl ⟨hback, h⟩)
      · next hback => exact .inr (.inr ⟨hname, hback, h⟩)

/-- Every step on the way to where a path leads is from a directory. -/
theorem isOpen_of_go? {place path : FilePath} (h : fs.go? place path = some q)
    (hplace : fs.IsOpen place) : fs.IsOpen q := by
  induction path generalizing place with
  | nil =>
    obtain rfl := Option.some.inj h
    exact hplace
  | cons name rest ih =>
    have hd := isDirectory_of_go?_cons h
    obtain ⟨-, hrest⟩ | ⟨-, hrest⟩ | ⟨-, -, hrest⟩ := go?_cons_cases h
    · exact ih hrest hplace
    · exact ih hrest (hplace.outer hd)
    · exact ih hrest (hplace.concat hd name)

/-- A path of two parts goes the one after the other. -/
theorem go?_append (place path rest : FilePath) :
    fs.go? place (path ++ rest) = (fs.go? place path).bind fun q => fs.go? q rest := by
  induction path generalizing place with
  | nil => rfl
  | cons name path ih =>
    rw [List.cons_append, go?, go?]
    split
    · rfl
    · split
      · exact ih place
      · split
        · exact ih _
        · exact ih _

/-- Nothing but directories is under a path that ends with no name. -/
theorem exists_name_of_fileAt? (h : fs.fileAt? p = some q) :
    ∃ init d name, name ≠ "" ∧ name ≠ FilePath.back ∧ p = init ++ [name] ∧ q = d ++ [name] := by
  obtain ⟨hgo, hfree⟩ := fileAt?_eq_some.1 h
  obtain rfl | ⟨init, name, rfl⟩ := p.eq_nil_or_concat'
  · obtain rfl := Option.some.inj hgo
    nomatch hfree
  · rw [go?_append, Option.bind_eq_some_iff] at hgo
    obtain ⟨d, hinit, hlast⟩ := hgo
    have hd := isDirectory_of_go?_cons hlast
    obtain ⟨-, hq⟩ | ⟨-, hq⟩ | ⟨hname, hback, hq⟩ := go?_cons_cases hlast
    · obtain rfl := Option.some.inj hq
      rw [hd] at hfree
      nomatch hfree
    · obtain rfl := Option.some.inj hq
      have hopen : fs.IsOpen d := isOpen_of_go? hinit fun _ _ hnil => by simp at hnil
      rw [hopen.isDirectory_outer] at hfree
      nomatch hfree
    · exact ⟨init, d, name, hname, hback, rfl, (Option.some.inj hq).symm⟩

/-- What is written beside a file is not written in its place. -/
theorem fileAt?_temporary_ne {s : FilePath} (h : fs.fileAt? p = some q)
    (hs : fs.fileAt? p.temporary = some s) : s ≠ q := by
  obtain ⟨init, d, name, hname, hback, rfl, rfl⟩ := exists_name_of_fileAt? h
  obtain ⟨init', d', name', -, -, htemporary, rfl⟩ := exists_name_of_fileAt? hs
  have hsteps : (init ++ [name]).filter (· != "") = init.filter (· != "") ++ [name] := by
    have hkept : [name].filter (· != "") = [name] := List.filter_cons_of_pos (bne_iff_ne.2 hname)
    rw [List.filter_append, hkept]
  have hlast : name' = name ++ ".tmp" := by
    unfold FilePath.temporary at htemporary
    simp only [hsteps, List.getLast?_concat, if_neg hback] at htemporary
    exact (List.append_inj_right' htemporary rfl |> List.singleton_inj.1).symm
  intro heq
  have hsame : name ++ ".tmp" = name :=
    hlast ▸ List.singleton_inj.1 (List.append_inj_right' heq rfl)
  have hlength := congrArg String.length hsame
  rw [String.length_append] at hlength
  exact absurd hlength (by simp)

/-! ## How calls are answered -/

/-- What is at a path. -/
def at? (fs : FileSystem) (p : FilePath) : Option FileNode := (fs.go? [] p).bind fs.find?

/-- How the calls to the files are answered. A call that changes files does its change or fails, and
what fails changes nothing, but a write may fail when a part is written. Whatever fails, a file can
still be removed. -/
def answering : Answering FileSystem
  | .readFile path, fs, x, fs' => fs' = fs ∧ (x = fs.read path ∨ ∃ e, x = .error e)
  | .writeFile path text, fs, x, fs' => x = .ok () ∧ fs.write path text = .ok fs' ∨
      ∃ e, x = .error e ∧ (fs' = fs ∨ ∃ part, fs.write path part = .ok fs')
  | .moveFile source target, fs, x, fs' => x = .ok () ∧ fs.move source target = .ok fs' ∨
      ∃ e, x = .error e ∧ fs' = fs
  | .removeFile path, fs, x, fs' => x = .ok () ∧ fs.remove path = .ok fs' ∨
      ∃ e, x = .error e ∧ fs.remove path = .error e ∧ fs' = fs
  | _, fs, _, fs' => fs' = fs

/-- Whether a file was replaced whole. -/
structure Replaced (fs fs' : FileSystem) (path : FilePath) (text : String) : Prop where
  at_path : fs'.at? path = some (.file text)
  at_temporary : fs'.at? path.temporary = none
  /-- Every path leads to where it led. -/
  leads : ∀ p, fs'.go? [] p = fs.go? [] p
  /-- At other places nothing has changed. -/
  others : ∀ q, fs.go? [] path ≠ some q → fs.go? [] path.temporary ≠ some q →
    fs'.find? q = fs.find? q

/-- Whether a file was left as it is, and nothing left beside it. -/
structure Spared (fs fs' : FileSystem) (path : FilePath) : Prop where
  at_path : fs'.at? path = fs.at? path
  at_temporary : fs'.at? path.temporary = none ∨ fs'.at? path.temporary = fs.at? path.temporary
  /-- Every path leads to where it led. -/
  leads : ∀ p, fs'.go? [] p = fs.go? [] p
  /-- At other places nothing has changed. -/
  others : ∀ q, fs.go? [] path.temporary ≠ some q → fs'.find? q = fs.find? q

/-- What was put into a file is read there. -/
theorem Replaced.read {path : FilePath} (h : fs.Replaced fs' path text) :
    fs'.read path = .ok text := by
  have hat := h.at_path
  unfold at? at hat
  unfold FileSystem.read
  rw [hat]

/-- A file that was spared reads as before. -/
theorem Spared.read {path : FilePath} (h : fs.Spared fs' path) : fs'.read path = fs.read path := by
  have hat := h.at_path
  unfold at? at hat
  unfold FileSystem.read
  rw [hat]

/-- What does not write files leaves them as they are. -/
theorem eq_of_answering {c : Call} {x : c.Answer} (hc : c.writesFile = false)
    (h : answering c fs x fs') : fs' = fs := by
  cases c with
  | writeFile _ _ | moveFile _ _ | removeFile _ => nomatch hc
  | readFile _ => exact h.1
  | list _ | get _ _ | create _ _ _ | update _ _ _ | delete _ _ | freshId | notify _ | count _
  | counters | liveAlerts | addSilence _ | removeSilence _ | reloadRoutes | reloadMetrics
  | environments | hosts _ | pause _ => exact h

/-- Where nothing was done a file is spared. -/
theorem Spared.refl (fs : FileSystem) (path : FilePath) : fs.Spared fs path :=
  ⟨rfl, .inr rfl, fun _ => rfl, fun _ _ => rfl⟩

/-- What is at a path to which another place belongs. -/
theorem at?_of_go? (hgo : fs.go? [] p = some q) : fs.at? p = fs.find? q := by
  unfold at?
  rw [hgo]
  rfl

/-- A file is spared if nothing is where something may have been written beside it, and everything
else is as it was. -/
theorem Spared.of_find?_eq_none {path s : FilePath} (hs : fs.fileAt? path.temporary = some s)
    (hdirectories : ∀ p, fs'.isDirectory p = fs.isDirectory p) (hgone : fs'.find? s = none)
    (hothers : ∀ q, q ≠ s → fs'.find? q = fs.find? q) : fs.Spared fs' path := by
  obtain ⟨hgo, hfree⟩ := fileAt?_eq_some.1 hs
  have hleads : ∀ p, fs'.go? [] p = fs.go? [] p := go?_congr hdirectories []
  refine ⟨?_, .inl ?_, hleads, ?_⟩
  · unfold at?
    rw [hleads]
    cases hpath : fs.go? [] path with
    | none => rfl
    | some q =>
      -- No directory is at `s`, so if the path led there a file could be under it.
      apply hothers q
      rintro rfl
      exact fileAt?_temporary_ne (fileAt?_eq_some.2 ⟨hpath, hfree⟩) hs rfl
  · rw [at?_of_go? ((hleads _).trans hgo), hgone]
  · intro q hq
    apply hothers q
    rintro rfl
    exact hq hgo

/-! ## Replacing a file -/

/-- Whether nothing was done but that a file may have been written under a path. -/
def Prepared (fs fs' : FileSystem) (p : FilePath) : Prop :=
  fs' = fs ∨ ∃ text, fs.write p text = .ok fs'

namespace Prepared

variable {fs₁ fs₂ : FileSystem} {path s : FilePath}

/-- Where no file can be nothing was done. -/
theorem eq_of_fileAt? (h : fs.Prepared fs₁ p) (hp : fs.fileAt? p = none) : fs₁ = fs := by
  obtain hsame | ⟨text, hwrite⟩ := h
  · exact hsame
  · obtain ⟨q, hgo, hfree, -⟩ := write_eq_ok hwrite
    rw [fileAt?_eq_some.2 ⟨hgo, hfree⟩] at hp
    nomatch hp

/-- The directories are as before. -/
theorem isDirectory (h : fs.Prepared fs₁ p) (q : FilePath) :
    fs₁.isDirectory q = fs.isDirectory q := by
  obtain rfl | ⟨text, hwrite⟩ := h
  · rfl
  · obtain ⟨s, -, hfree, rfl⟩ := write_eq_ok hwrite
    exact isDirectory_put_file hfree text q

/-- Nothing else was written. -/
theorem find?_of_ne (h : fs.Prepared fs₁ p) (hs : fs.fileAt? p = some s) (hne : q ≠ s) :
    fs₁.find? q = fs.find? q := by
  obtain rfl | ⟨text, hwrite⟩ := h
  · rfl
  · obtain ⟨s', hgo, hfree, rfl⟩ := write_eq_ok hwrite
    rw [fileAt?_eq_some.2 ⟨hgo, hfree⟩] at hs
    obtain rfl := Option.some.inj hs
    exact find?_put_of_ne hne _

/-- A file is spared if the one beside it is removed. -/
theorem spared {x : Except Error Unit} (h : fs.Prepared fs₁ path.temporary)
    (hremove : answering (.removeFile path.temporary) fs₁ x fs₂) : fs.Spared fs₂ path := by
  cases hs : fs.fileAt? path.temporary with
  | none =>
    obtain rfl := h.eq_of_fileAt? hs
    obtain ⟨-, hok⟩ | ⟨e, -, -, rfl⟩ := hremove
    · unfold remove at hok
      rw [hs] at hok
      nomatch hok
    · exact .refl _ _
  | some s =>
    obtain ⟨hgo, hfree⟩ := fileAt?_eq_some.1 hs
    have hfree₁ : fs₁.isDirectory s = false := (h.isDirectory s).trans hfree
    have hs₁ : fs₁.fileAt? path.temporary = some s :=
      fileAt?_eq_some.2 ⟨(go?_congr h.isDirectory _ _).trans hgo, hfree₁⟩
    unfold answering remove at hremove
    simp only [hs₁] at hremove
    split at hremove
    · obtain ⟨-, hok⟩ | ⟨e, -, herror, -⟩ := hremove
      · obtain rfl := Except.ok.inj hok
        refine .of_find?_eq_none hs ?_ (find?_drop_self hfree₁) ?_
        · exact fun p => (isDirectory_drop hfree₁ p).trans (h.isDirectory p)
        · exact fun q hne => (find?_drop_of_ne hne).trans (h.find?_of_ne hs hne)
      · nomatch herror
    · next hnone =>
      obtain ⟨-, hok⟩ | ⟨e, -, -, rfl⟩ := hremove
      · nomatch hok
      · -- There was nothing to remove.
        exact .of_find?_eq_none hs h.isDirectory (Option.not_isSome_iff_eq_none.1 hnone)
          fun q hne => h.find?_of_ne hs hne

end Prepared

/-- A file is replaced when what was written beside it is moved over it. -/
theorem replaced_of_move {fs₁ fs₂ : FileSystem} {path : FilePath}
    (hwrite : fs.write path.temporary text = .ok fs₁)
    (hmove : fs₁.move path.temporary path = .ok fs₂) : fs.Replaced fs₂ path text := by
  obtain ⟨s, hs, hfree, rfl⟩ := write_eq_ok hwrite
  obtain ⟨s', t, text', hs', hfreeSource, ht, hfreeTarget, hfound, rfl⟩ := move_eq_ok hmove
  have hput := isDirectory_put_file hfree text
  -- The source still leads to where it was written.
  rw [go?_congr hput, hs] at hs'
  obtain rfl := Option.some.inj hs'
  rw [find?_put_self hfree] at hfound
  obtain rfl := FileNode.file.inj (Option.some.inj hfound)
  rw [go?_congr hput] at ht
  rw [hput] at hfreeTarget
  have hne : s ≠ t := fileAt?_temporary_ne (fileAt?_eq_some.2 ⟨ht, hfreeTarget⟩)
    (fileAt?_eq_some.2 ⟨hs, hfree⟩)
  have hdrop := isDirectory_drop hfreeSource
  have hfreeDropped : ((fs.put s (.file text)).drop s).isDirectory t = false :=
    (hdrop t).trans ((hput t).trans hfreeTarget)
  have hdirectories (p : FilePath) :
      ((((fs.put s (.file text)).drop s).put t (.file text)).isDirectory p) = fs.isDirectory p :=
    (isDirectory_put_file hfreeDropped text p).trans ((hdrop p).trans (hput p))
  have hleads := go?_congr hdirectories []
  refine ⟨?_, ?_, hleads, ?_⟩
  · rw [at?_of_go? ((hleads path).trans ht), find?_put_self hfreeDropped]
  · rw [at?_of_go? ((hleads path.temporary).trans hs), find?_put_of_ne hne,
      find?_drop_self hfreeSource]
  · intro q hpath htemporary
    have hqt : q ≠ t := fun heq => hpath (heq ▸ ht)
    have hqs : q ≠ s := fun heq => htemporary (heq ▸ hs)
    rw [find?_put_of_ne hqt, find?_drop_of_ne hqs, find?_put_of_ne hqs]

end FileSystem

open FileSystem (answering)

/-- However the calls go by which a file is replaced, it is replaced whole or spared. -/
theorem Artifact.always_replaced_or_spared (path : FilePath) (text : String) (fs : FileSystem) :
    Program.Always answering (fun r fs' => (∀ u, r = .ok u → fs.Replaced fs' path text) ∧
      ∀ e, r = .error e → fs.Spared fs' path) (write path text).outcome fs := by
  have hremove (e : Error) {fs₁ : FileSystem} (h : fs.Prepared fs₁ path.temporary) :
      Program.Always answering (fun (r : Except Error Unit) fs' =>
          (∀ u, r = .ok u → fs.Replaced fs' path text) ∧ ∀ e, r = .error e → fs.Spared fs' path)
        (Program.ask (.removeFile path.temporary) >>= fun _ => pure (.error e)) fs₁ :=
    fun _ _ hx => ⟨nofun, fun _ _ => h.spared hx⟩
  rintro written fs₁ (⟨rfl, hwrite⟩ | ⟨e, rfl, hwrite⟩)
  · rintro moved fs₂ (⟨rfl, hmove⟩ | ⟨e, rfl, rfl⟩)
    · exact ⟨fun _ _ => FileSystem.replaced_of_move hwrite hmove, nofun⟩
    · exact hremove e (.inr ⟨text, hwrite⟩)
  · exact hremove e hwrite

end AlertSync
