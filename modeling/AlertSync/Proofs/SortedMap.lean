import AlertSync.SortedMap
import Mathlib.Data.List.Nodup
import Mathlib.Data.List.Perm.Basic

/-!
# Sorted maps through their look-ups

A sorted map is known by what each key is bound to. `find?_insert`, `find?_erase` and `find?_map`
say what the operations do to the look-ups, `mem_entries_iff` ties the look-ups to the entries, and
`ext_find?` says that two maps with the same look-ups are equal.

In many maps every value names the key that it is bound to. Insertions and removals keep that, and
the values of such a map, listed, are all different in what they name (`mem_values_iff`,
`nodup_names`).
-/

namespace AlertSync

variable {α β : Type}

/-- Of a list, what alone satisfies a condition is what is found. -/
theorem find?_eq_some_of_unique {l : List α} {p : α → Bool} {a : α} (ha : a ∈ l) (hp : p a = true)
    (hunique : ∀ b ∈ l, p b = true → b = a) : l.find? p = some a := by
  cases hfind : l.find? p with
  | none => exact absurd hp (List.find?_eq_none.1 hfind a ha)
  | some b => rw [hunique b (List.mem_of_find?_eq_some hfind) (List.find?_some hfind)]

namespace SortedMap

/-- Nothing is bound in the empty map. -/
@[simp]
theorem find?_empty (key : String) : (empty : SortedMap α).find? key = none := rfl

/-- What is found in an entry list after an insertion. -/
theorem find?_insertEntry (key : String) (value : α) (l : List (String × α)) (x : String) :
    ((insertEntry key value l).find? (fun e => e.1 == x)).map (·.2) =
      if x = key then some value else (l.find? (fun e => e.1 == x)).map (·.2) := by
  induction l with
  | nil =>
    by_cases h : x = key
    · simp [insertEntry, h]
    · simp [insertEntry, h, Ne.symm h]
  | cons head rest ih =>
    obtain ⟨k, v⟩ := head
    rw [insertEntry]
    split
    · -- The new entry comes before all others.
      by_cases h : x = key
      · simp [h]
      · simp [List.find?_cons, h, Ne.symm h]
    · split
      · -- The new entry comes further behind.
        next hgt =>
        have hne : k ≠ key := fun heq => String.lt_irrefl key (heq ▸ hgt)
        by_cases hk : k = x
        · subst hk
          simp [hne]
        · simp [hk, ih]
      · -- The new entry takes the place of the first.
        next hngt hnlt =>
        have hkey : key = k := String.le_antisymm (String.not_lt.1 hnlt) (String.not_lt.1 hngt)
        subst hkey
        by_cases h : x = key
        · simp [h]
        · simp [h, Ne.symm h]

/-- An insertion binds its key and leaves every other key as it was. -/
@[simp]
theorem find?_insert (m : SortedMap α) (key : String) (value : α) (x : String) :
    (m.insert key value).find? x = if x = key then some value else m.find? x :=
  find?_insertEntry key value m.entries x

/-- A removal takes its key away and leaves every other key as it was. -/
@[simp]
theorem find?_erase (m : SortedMap α) (key x : String) :
    (m.erase key).find? x = if x = key then none else m.find? x := by
  unfold find? erase
  rw [List.find?_filter]
  by_cases h : x = key
  · rw [if_pos h, Option.map_eq_none_iff, List.find?_eq_none]
    simp [h]
  · rw [if_neg h]
    congr 2
    funext e
    by_cases he : e.1 = x
    · simp [he, h]
    · simp [he]

/-- Sending the values through a function does so to what is found. -/
@[simp]
theorem find?_map (f : α → β) (m : SortedMap α) (x : String) :
    (m.map f).find? x = (m.find? x).map f := by
  unfold find? map
  rw [List.find?_map, Option.map_map, Option.map_map]
  rfl

/-- Whether a key is bound is whether it is found. -/
theorem contains_eq_isSome (m : SortedMap α) (x : String) : m.contains x = (m.find? x).isSome := by
  unfold contains find?
  rw [Option.isSome_map, Bool.eq_iff_iff, List.any_eq_true, List.find?_isSome]

/-- The keys of a map are in their order. -/
theorem ascending_keys (m : SortedMap α) : m.keys.Pairwise (· < ·) := by
  unfold keys
  rw [List.pairwise_map]
  exact m.ascending

/-- The keys of a map are all different. -/
theorem nodup_keys (m : SortedMap α) : m.keys.Nodup := by
  rw [List.nodup_iff_pairwise_ne]
  refine m.ascending_keys.imp ?_
  intro a b hlt heq
  exact String.lt_irrefl b (heq ▸ hlt)

/-- The entries of a map are what its keys are bound to. -/
theorem mem_entries_iff {m : SortedMap α} {key : String} {value : α} :
    (key, value) ∈ m.entries ↔ m.find? key = some value := by
  unfold find?
  constructor
  · intro h
    have hnodup : (m.entries.map (·.1)).Nodup := m.nodup_keys
    have hfind : m.entries.find? (fun e => e.1 == key) = some (key, value) := by
      apply find?_eq_some_of_unique h (beq_self_eq_true key)
      intro e he hkey
      exact List.inj_on_of_nodup_map hnodup he h (beq_iff_eq.1 hkey)
    rw [hfind, Option.map_some]
  · intro h
    obtain ⟨e, he, rfl⟩ := Option.map_eq_some_iff.1 h
    have hkey := List.find?_some he
    rw [beq_iff_eq] at hkey
    rw [← hkey]
    exact List.mem_of_find?_eq_some he

/-- Two lists in the order of their keys are equal if they have the same members. -/
theorem eq_of_ascending (key : α → String) {l l' : List α}
    (hl : l.Pairwise fun a b => key a < key b) (hl' : l'.Pairwise fun a b => key a < key b)
    (hmem : ∀ a, a ∈ l ↔ a ∈ l') : l = l' := by
  have hirrefl : ∀ a b, key a < key b → a ≠ b :=
    fun a b hab heq => String.lt_irrefl (key b) (heq ▸ hab)
  have hperm : l.Perm l' :=
    (List.perm_ext_iff_of_nodup (hl.imp (hirrefl _ _)) (hl'.imp (hirrefl _ _))).2 hmem
  exact hperm.eq_of_pairwise
    (fun a b _ _ hab hba => absurd (String.lt_trans hab hba) (String.lt_irrefl _)) hl hl'

/-- Two maps in which the same is found are equal. -/
theorem ext_find? {m n : SortedMap α} (h : ∀ x, m.find? x = n.find? x) : m = n := by
  obtain ⟨l, hl⟩ := m
  obtain ⟨l', hl'⟩ := n
  have hmem : ∀ e, e ∈ l ↔ e ∈ l' := by
    intro e
    have hm : e ∈ l ↔ _ := mem_entries_iff (m := ⟨l, hl⟩)
    have hn : e ∈ l' ↔ _ := mem_entries_iff (m := ⟨l', hl'⟩)
    rw [hm, hn, h e.1]
  -- Both lists hold the same entries, and are in the one order that keys have.
  obtain rfl := eq_of_ascending _ hl hl' hmem
  rfl

/-- Of two values for one key the later counts. -/
theorem insert_insert (m : SortedMap α) (key : String) (former value : α) :
    (m.insert key former).insert key value = m.insert key value := by
  apply ext_find?
  intro x
  rw [find?_insert, find?_insert, find?_insert]
  split <;> rfl

/-- Inserting and sending the values through a function may be done in either order. -/
theorem map_insert (f : α → β) (m : SortedMap α) (key : String) (value : α) :
    (m.insert key value).map f = (m.map f).insert key (f value) := by
  apply ext_find?
  intro x
  rw [find?_map, find?_insert, find?_insert, find?_map]
  split <;> rfl

/-- Removing and sending the values through a function may be done in either order. -/
theorem map_erase (f : α → β) (m : SortedMap α) (key : String) :
    (m.erase key).map f = (m.map f).erase key := by
  apply ext_find?
  intro x
  rw [find?_map, find?_erase, find?_erase, find?_map]
  split <;> rfl

/-- A key that is above all others is listed last. -/
theorem insertEntry_of_lt {key : String} {value : α} {l : List (String × α)}
    (h : ∀ e ∈ l, e.1 < key) : insertEntry key value l = l ++ [(key, value)] := by
  induction l with
  | nil => rfl
  | cons head rest ih =>
    obtain ⟨k, v⟩ := head
    have hlt : k < key := h (k, v) List.mem_cons_self
    have hrest := ih fun e he => h e (List.mem_cons_of_mem _ he)
    rw [insertEntry, if_neg (String.lt_asymm hlt), if_pos hlt, hrest]
    rfl

/-- Entries that are inserted in the order of their keys are listed in it. -/
theorem entries_foldl_insert {m : SortedMap α} {l : List (String × α)}
    (h : (m.entries ++ l).Pairwise fun a b => a.1 < b.1) :
    (l.foldl (fun m e => m.insert e.1 e.2) m).entries = m.entries ++ l := by
  induction l generalizing m with
  | nil => exact (List.append_nil _).symm
  | cons e l ih =>
    have hlast : (m.insert e.1 e.2).entries = m.entries ++ [e] :=
      insertEntry_of_lt fun x hx => (List.pairwise_append.1 h).2.2 x hx e List.mem_cons_self
    have hsame : (m.insert e.1 e.2).entries ++ l = m.entries ++ e :: l := by
      rw [hlast, List.append_assoc, List.singleton_append]
    rw [List.foldl_cons, ih (by rw [hsame]; exact h), hsame]

/-- A map is what is built from its entries. -/
theorem ofList_entries (m : SortedMap α) : ofList m.entries = m := by
  obtain ⟨l, hl⟩ := m
  have hentries : (ofList l).entries = l := entries_foldl_insert (m := empty) hl
  generalize ofList l = n at hentries ⊢
  obtain ⟨_, _⟩ := n
  obtain rfl := hentries
  rfl

/-! ## Values that name their keys -/

section Named

variable {m : SortedMap α} {name : α → String}

/-- A value that is bound to the key that it names leaves every value bound so. -/
theorem name_of_find?_insert (h : ∀ {key value}, m.find? key = some value → name value = key)
    {new : α} {key : String} {value : α}
    (hfind : (m.insert (name new) new).find? key = some value) : name value = key := by
  rw [find?_insert] at hfind
  split at hfind
  · next heq =>
    obtain rfl := Option.some.inj hfind
    exact heq.symm
  · exact h hfind

/-- A removal leaves every value bound to the key that it names. -/
theorem name_of_find?_erase (h : ∀ {key value}, m.find? key = some value → name value = key)
    {gone key : String} {value : α} (hfind : (m.erase gone).find? key = some value) :
    name value = key := by
  rw [find?_erase] at hfind
  split at hfind
  · nomatch hfind
  · exact h hfind

/-- A value is listed if it is bound to the key that it names. -/
theorem mem_values_iff (h : ∀ {key value}, m.find? key = some value → name value = key)
    {value : α} : value ∈ m.entries.map (·.2) ↔ m.find? (name value) = some value := by
  constructor
  · intro hmem
    obtain ⟨⟨key, found⟩, hentry, rfl⟩ := List.mem_map.1 hmem
    have hfind := mem_entries_iff.1 hentry
    rw [h hfind]
    exact hfind
  · intro hfind
    exact List.mem_map.2 ⟨(name value, value), mem_entries_iff.2 hfind, rfl⟩

/-- The listed values name the keys. -/
theorem map_name_values (h : ∀ {key value}, m.find? key = some value → name value = key) :
    (m.entries.map (·.2)).map name = m.keys := by
  unfold keys
  rw [List.map_map]
  apply List.map_congr_left
  intro e he
  exact h (mem_entries_iff.1 he)

/-- The listed values name different keys. -/
theorem nodup_names (h : ∀ {key value}, m.find? key = some value → name value = key) :
    ((m.entries.map (·.2)).map name).Nodup := by
  rw [map_name_values h]
  exact m.nodup_keys

/-- The listed values are in the order of the keys that they name. -/
theorem ascending_names (h : ∀ {key value}, m.find? key = some value → name value = key) :
    ((m.entries.map (·.2)).map name).Pairwise (· < ·) := by
  rw [map_name_values h]
  exact m.ascending_keys

end Named

end SortedMap

end AlertSync
