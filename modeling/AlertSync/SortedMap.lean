/-!
# Maps with sorted string keys

A label set, a set of header lines and the objects of one kind in the store are finite maps from
strings that are always listed in the order of their keys. `SortedMap` keeps exactly that list:
its entries, strictly ascending by key, so that two maps with the same entries are equal and no
key occurs twice. Keys are compared code point by code point, which is also the order of their
UTF-8 bytes. Inserting keeps the order (`ascending_insertEntry`).
-/

namespace AlertSync

/-- A finite map from strings: its entries, strictly ascending by key. -/
structure SortedMap (α : Type) where
  /-- The entries in the order of their keys. -/
  entries : List (String × α)
  /-- Each key is below every later one. -/
  ascending : entries.Pairwise (fun a b => a.1 < b.1)
  deriving DecidableEq

namespace SortedMap

variable {α β : Type}

/-- The map without entries. -/
def empty : SortedMap α := ⟨[], .nil⟩

instance : Inhabited (SortedMap α) := ⟨empty⟩

/-- The entry list with `key` bound to `value`, at its place in the order. -/
def insertEntry (key : String) (value : α) : List (String × α) → List (String × α)
  | [] => [(key, value)]
  | (k, v) :: rest =>
    if key < k then (key, value) :: (k, v) :: rest
    else if k < key then (k, v) :: insertEntry key value rest
    else (key, value) :: rest

theorem mem_insertEntry {key : String} {value : α} {l : List (String × α)} {e : String × α}
    (h : e ∈ insertEntry key value l) : e = (key, value) ∨ e ∈ l := by
  induction l with
  | nil => simpa [insertEntry] using h
  | cons head rest ih =>
    obtain ⟨k, v⟩ := head
    rw [insertEntry] at h
    split at h
    · simpa using h
    · split at h
      · rcases List.mem_cons.1 h with rfl | h
        · simp
        · rcases ih h with h | h <;> simp [h]
      · rcases List.mem_cons.1 h with h | h <;> simp [h]

theorem ascending_insertEntry {key : String} {value : α} {l : List (String × α)}
    (h : l.Pairwise (fun a b => a.1 < b.1)) :
    (insertEntry key value l).Pairwise (fun a b => a.1 < b.1) := by
  induction l with
  | nil => simp [insertEntry]
  | cons head rest ih =>
    obtain ⟨k, v⟩ := head
    obtain ⟨hk, hrest⟩ := List.pairwise_cons.1 h
    rw [insertEntry]
    split
    · next hlt =>
      refine List.pairwise_cons.2 ⟨fun e he => ?_, h⟩
      rcases List.mem_cons.1 he with rfl | he
      · exact hlt
      · exact String.lt_trans hlt (hk e he)
    · next hnlt =>
      split
      · next hgt =>
        refine List.pairwise_cons.2 ⟨fun e he => ?_, ih hrest⟩
        rcases mem_insertEntry he with rfl | he
        · exact hgt
        · exact hk e he
      · next hngt =>
        have : key = k := String.le_antisymm (String.not_lt.1 hngt) (String.not_lt.1 hnlt)
        subst this
        exact List.pairwise_cons.2 ⟨hk, hrest⟩

/-- The map with `key` bound to `value`, in place of what the key was bound to before. -/
def insert (m : SortedMap α) (key : String) (value : α) : SortedMap α :=
  ⟨insertEntry key value m.entries, ascending_insertEntry m.ascending⟩

/-- The map without `key`. -/
def erase (m : SortedMap α) (key : String) : SortedMap α :=
  ⟨m.entries.filter (fun e => e.1 != key), m.ascending.filter _⟩

/-- What `key` is bound to. -/
def find? (m : SortedMap α) (key : String) : Option α :=
  (m.entries.find? (fun e => e.1 == key)).map (·.2)

/-- Whether `key` is bound. -/
def contains (m : SortedMap α) (key : String) : Bool := m.entries.any (fun e => e.1 == key)

/-- Whether no key is bound. -/
def isEmpty (m : SortedMap α) : Bool := m.entries.isEmpty

/-- The keys in ascending order. -/
def keys (m : SortedMap α) : List String := m.entries.map (·.1)

/-- The same keys, each value sent through `f`. -/
def map (f : α → β) (m : SortedMap α) : SortedMap β :=
  ⟨m.entries.map (fun e => (e.1, f e.2)), by
    rw [List.pairwise_map]
    exact m.ascending⟩

/-- The map that binds each key of a list to the last value listed for it. -/
def ofList (l : List (String × α)) : SortedMap α :=
  l.foldl (fun m e => m.insert e.1 e.2) empty

end SortedMap

end AlertSync
