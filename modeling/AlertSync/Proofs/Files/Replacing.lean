import AlertSync.Artifact
import AlertSync.FileSystem

/-!
# Putting and dropping files

A file is replaced by writing its new contents beside it and moving them over it. Both put a file
where no directory is (`write_eq_ok`, `move_eq_ok`), and neither makes a directory or takes one away
(`isDirectory_put_file`, `isDirectory_drop`); so every path leads to where it led (`go?_congr`).
-/

namespace AlertSync.FileSystem

variable {fs fs' : FileSystem} {p q : FilePath} {text : String}

/-! ## Where things are found -/

/-- Where no directory is, a path does not only lead back. -/
theorem not_all_back_of_isDirectory (h : fs.isDirectory q = false) :
    q.all (· == FilePath.back) = false := by
  apply eq_false_of_ne_true
  intro hback
  unfold isDirectory find? at h
  rw [if_pos hback] at h
  exact absurd h (by decide)

/-- A file is found where it was put, if no directory is there. -/
theorem find?_put_self (h : fs.isDirectory q = false) (n : FileNode) :
    (fs.put q n).find? q = some n := by
  unfold find? put
  rw [not_all_back_of_isDirectory h, if_neg Bool.false_ne_true]
  exact List.lookup_cons_self

/-- Elsewhere the same is found when something is dropped. -/
theorem find?_drop_of_ne (h : p ≠ q) : (fs.drop q).find? p = fs.find? p := by
  unfold find? drop
  congr 1
  induction fs.nodes with
  | nil => rfl
  | cons e nodes ih =>
    obtain ⟨x, n⟩ := e
    by_cases hx : x = q
    · have hne : (p == x) = false := beq_false_of_ne fun heq => h (heq.trans hx)
      rw [List.filter_cons_of_neg (by simp [hx]), ih, List.lookup_cons, hne]
    · rw [List.filter_cons_of_pos (by simpa using hx), List.lookup_cons, List.lookup_cons, ih]

/-- Elsewhere the same is found when something is put. -/
theorem find?_put_of_ne (h : p ≠ q) (n : FileNode) : (fs.put q n).find? p = fs.find? p := by
  have hne : (p == q) = false := beq_false_of_ne h
  have hput : (fs.put q n).find? p = (fs.drop q).find? p := by
    unfold find? put drop
    rw [List.lookup_cons, hne]
  rw [hput, find?_drop_of_ne h]

/-- Nothing is found where something was dropped that is no directory. -/
theorem find?_drop_self (h : fs.isDirectory q = false) : (fs.drop q).find? q = none := by
  unfold find? drop
  rw [not_all_back_of_isDirectory h, if_neg Bool.false_ne_true, List.lookup_eq_none_iff]
  intro e he
  exact bne_comm.trans (List.mem_filter.1 he).2

/-- Nothing is a directory where something was dropped that is none. -/
theorem isDirectory_drop (h : fs.isDirectory q = false) (p : FilePath) :
    (fs.drop q).isDirectory p = fs.isDirectory p := by
  by_cases hp : p = q
  · subst hp
    rw [h, isDirectory, find?_drop_self h]
    rfl
  · rw [isDirectory, isDirectory, find?_drop_of_ne hp]

/-- Nothing is a directory where a file was put in place of none. -/
theorem isDirectory_put_file (h : fs.isDirectory q = false) (text : String) (p : FilePath) :
    (fs.put q (.file text)).isDirectory p = fs.isDirectory p := by
  by_cases hp : p = q
  · subst hp
    rw [h, isDirectory, find?_put_self h]
    rfl
  · rw [isDirectory, isDirectory, find?_put_of_ne hp]

/-! ## Where paths lead -/

/-- Where a path leads is decided by the directories. -/
theorem go?_congr (h : ∀ p, fs'.isDirectory p = fs.isDirectory p) (place path : FilePath) :
    fs'.go? place path = fs.go? place path := by
  induction path generalizing place with
  | nil => rfl
  | cons name rest ih => rw [go?, go?, h, ih, ih, ih]

/-- A file can be at a path if that leads to where no directory is. -/
theorem fileAt?_eq_some :
    fs.fileAt? p = some q ↔ fs.go? [] p = some q ∧ fs.isDirectory q = false := by
  unfold fileAt?
  rw [Option.filter_eq_some_iff, Bool.not_eq_true']

/-! ## Replacing a file -/

/-- Writing puts a file to where the path leads. -/
theorem write_eq_ok (h : fs.write p text = .ok fs') :
    ∃ q, fs.go? [] p = some q ∧ fs.isDirectory q = false ∧ fs' = fs.put q (.file text) := by
  unfold write at h
  split at h
  · next q hq =>
    obtain ⟨hgo, hfree⟩ := fileAt?_eq_some.1 hq
    exact ⟨q, hgo, hfree, (Except.ok.inj h).symm⟩
  · nomatch h

/-- Moving takes a file from where one path leads to where the other does. -/
theorem move_eq_ok {source target : FilePath} (h : fs.move source target = .ok fs') :
    ∃ s t text, fs.go? [] source = some s ∧ fs.isDirectory s = false ∧
      fs.go? [] target = some t ∧ fs.isDirectory t = false ∧ fs.find? s = some (.file text) ∧
      fs' = (fs.drop s).put t (.file text) := by
  unfold move at h
  split at h
  · next s t hs ht =>
    obtain ⟨hgo, hfree⟩ := fileAt?_eq_some.1 hs
    obtain ⟨hgo', hfree'⟩ := fileAt?_eq_some.1 ht
    split at h
    · next text hfound =>
      exact ⟨s, t, text, hgo, hfree, hgo', hfree', hfound, (Except.ok.inj h).symm⟩
    · nomatch h
  · nomatch h

end AlertSync.FileSystem
