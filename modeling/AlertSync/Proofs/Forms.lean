import AlertSync.Form
import AlertSync.Tree

/-!
# Records that are written and read

A record whose parts have some of the names that its reader knows, in the same order, is read part
by part (`Form.parts?_record`), whatever the format. Which part of a written record has a name
follows from how the record is put together: of parts that are always there, of parts that may be
left out (`Tree.part?`), and of lists that are left out when they are empty (`Tree.listPart?`).
-/

namespace AlertSync

/-- A list is read back if each of its items is; otherwise it is not read. -/
theorem mapM_eq_ite {α : Type} {f : α → Option α} {p : α → Prop} [DecidablePred p] {l : List α}
    (h : ∀ a ∈ l, f a = if p a then some a else none) :
    l.mapM f = if ∀ a ∈ l, p a then some l else none := by
  induction l with
  | nil => rfl
  | cons a l ih =>
    rw [List.mapM_cons, h a List.mem_cons_self, ih fun b hb => h b (List.mem_cons_of_mem a hb)]
    simp only [List.forall_mem_cons]
    by_cases ha : p a
    · by_cases hl : ∀ b ∈ l, p b
      · simp only [if_pos ha, if_pos hl, if_pos (And.intro ha hl)]
        rfl
      · simp only [if_pos ha, if_neg hl, if_neg fun h : p a ∧ ∀ b ∈ l, p b => hl h.2]
        rfl
    · simp only [if_neg ha, if_neg fun h : p a ∧ ∀ b ∈ l, p b => ha h.1]
      rfl

/-- A list is read back if each of its items is. -/
theorem mapM_eq_some {α : Type} {f : α → Option α} {l : List α} (h : ∀ a ∈ l, f a = some a) :
    l.mapM f = some l := by
  rw [mapM_eq_ite (p := fun _ => True) fun a ha => (h a ha).trans (if_pos trivial).symm]
  exact if_pos fun _ _ => trivial

namespace Form

/-- A record is read by a reader that knows all of its names. -/
theorem parts?_record {names : List String} {parts : List (String × Form)}
    (hsub : (parts.map (·.1)).Sublist names) (hdistinct : names.Nodup) :
    parts? names (.record (parts.map fun p => (some p.1, p.2))) = some parts := by
  have hnamed : (parts.map fun p => (some p.1, p.2)).mapM
      (fun (p : Option String × Form) => p.1.map (·, p.2)) = some parts := by
    rw [List.mapM_map]
    exact mapM_eq_some fun _ _ => rfl
  have hall : parts.filter (fun p => names.contains p.1) = parts := by
    rw [List.filter_eq_self]
    intro p hp
    rw [List.contains_iff_mem]
    exact hsub.subset (List.mem_map_of_mem hp)
  unfold parts?
  simp only [hnamed, Option.bind_eq_bind, Option.bind_some, hall, if_pos (hdistinct.sublist hsub)]

/-- The items of a list are nested less deep than the list. -/
theorem depth_lt_list {f : Form} {items : List Form} (h : f ∈ items) (positional : Bool) :
    f.depth < (Form.list positional items).depth := by
  rw [depth, Nat.lt_succ_iff]
  induction items with
  | nil => cases h
  | cons g items ih =>
    rw [depth.depthList]
    rcases List.mem_cons.1 h with rfl | h
    · exact Nat.le_max_left _ _
    · exact Nat.le_trans (ih h) (Nat.le_max_right _ _)

/-- The parts of a record are nested less deep than the record. -/
theorem depth_lt_record {p : Option String × Form} {parts : List (Option String × Form)}
    (h : p ∈ parts) : p.2.depth < (Form.record parts).depth := by
  rw [depth, Nat.lt_succ_iff]
  induction parts with
  | nil => cases h
  | cons q parts ih =>
    rw [depth.depthParts]
    rcases List.mem_cons.1 h with rfl | h
    · exact Nat.le_max_left _ _
    · exact Nat.le_trans (ih h) (Nat.le_max_right _ _)

end Form

namespace Tree

/-! ## Parts that may be left out -/

/-- The names of a part that may be left out are at most its name. -/
theorem names_part?_sublist (name : String) (value : Option Tree) :
    ((part? name value).map (·.1)).Sublist [name] := by
  cases value with
  | none => exact List.nil_sublist _
  | some t => exact .refl _

/-- The names of a list that may be left out are at most its name. -/
theorem names_listPart?_sublist (name : String) (items : List Tree) :
    ((listPart? name items).map (·.1)).Sublist [name] := by
  unfold listPart?
  split
  · exact List.nil_sublist _
  · exact .refl _

/-- Under its name there is the value of a part that may be left out. -/
@[simp]
theorem lookup_part?_self (name : String) (value : Option Tree) :
    (part? name value).lookup name = value := by
  cases value with
  | none => rfl
  | some t => exact List.lookup_cons_self

/-- Under other names there is nothing. -/
@[simp]
theorem lookup_part?_of_ne {name other : String} (h : name ≠ other) (value : Option Tree) :
    (part? other value).lookup name = none := by
  cases value with
  | none => rfl
  | some t => rw [part?, List.lookup_cons, beq_false_of_ne h, List.lookup_nil]

/-- Under its name there is a list that may be left out, unless it is empty. -/
@[simp]
theorem lookup_listPart?_self (name : String) (items : List Tree) :
    (listPart? name items).lookup name = if items.isEmpty then none else some (.list items) := by
  unfold listPart?
  split
  · rfl
  · exact List.lookup_cons_self

/-- Under other names there is nothing. -/
@[simp]
theorem lookup_listPart?_of_ne {name other : String} (h : name ≠ other) (items : List Tree) :
    (listPart? other items).lookup name = none := by
  unfold listPart?
  split
  · rfl
  · rw [List.lookup_cons, beq_false_of_ne h, List.lookup_nil]

theorem forall_mem_part? {name : String} {value : Option Tree} {P : String × Tree → Prop} :
    (∀ p ∈ part? name value, P p) ↔ ∀ t ∈ value, P (name, t) := by
  cases value <;> simp [part?]

theorem forall_mem_listPart? {name : String} {items : List Tree} {P : String × Tree → Prop} :
    (∀ p ∈ listPart? name items, P p) ↔ (items ≠ [] → P (name, .list items)) := by
  cases items <;> simp [listPart?]

/-! ## Depth -/

/-- How deep lists and records are nested. -/
def depth : Tree → Nat
  | list items => depthItems items + 1
  | record parts => depthParts parts + 1
  | _ => 0
where
  depthItems : List Tree → Nat
    | [] => 0
    | t :: r => max (depth t) (depthItems r)
  depthParts : List (String × Tree) → Nat
    | [] => 0
    | (_, t) :: r => max (depth t) (depthParts r)

theorem depth_list_le_iff {items : List Tree} {n : Nat} :
    (list items).depth ≤ n + 1 ↔ ∀ t ∈ items, t.depth ≤ n := by
  rw [depth, Nat.add_le_add_iff_right]
  induction items with
  | nil => simp [depth.depthItems]
  | cons t items ih => rw [depth.depthItems, Nat.max_le, ih, List.forall_mem_cons]

theorem depth_record_le_iff {parts : List (String × Tree)} {n : Nat} :
    (record parts).depth ≤ n + 1 ↔ ∀ p ∈ parts, p.2.depth ≤ n := by
  rw [depth, Nat.add_le_add_iff_right]
  induction parts with
  | nil => simp [depth.depthParts]
  | cons p parts ih => rw [depth.depthParts, Nat.max_le, ih, List.forall_mem_cons]

/-- Texts are not nested. -/
theorem depth_le_of_mem_texts {α : Type} (value : Option α) (word : α → String) (n : Nat) :
    ∀ t ∈ value.map fun a => .text (word a), depth t ≤ n := by
  intro t ht
  obtain ⟨a, -, rfl⟩ := Option.map_eq_some_iff.1 ht
  exact Nat.zero_le n

/-- The depth of a record of texts. -/
theorem depth_textRecord_le_iff {m : SortedMap String} {n : Nat} :
    (textRecord m).depth ≤ n ↔ 1 ≤ n := by
  cases n with
  | zero => simp [textRecord, depth]
  | succ n =>
    rw [textRecord, depth_record_le_iff, List.forall_mem_map]
    simp [depth]

end Tree

end AlertSync
