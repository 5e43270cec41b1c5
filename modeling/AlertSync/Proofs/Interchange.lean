import AlertSync.Proofs.SortedMap
import AlertSync.Store
import Mathlib.Tactic.SplitIfs

/-!
# The two stores are interchangeable

Whoever calls a store cannot tell by its answers whether it is in memory or in a database
(`interchangeable`): after any calls, the next is answered alike by both, be it with success or with
an error. The proof relates the maps in memory to the rows of the table. A table `Holds` some
objects if it has a row for each of them and no other, and no key twice; the order of the rows does
not matter. Every call keeps this (`Table.Holds.after`) and is then answered alike
(`Table.Holds.answersAlike`), because the keys of the rows are those of the maps: an insertion
violates the primary key, or a statement touches no row, just where a map says so.

Listings are in the order of the ids' bytes. The library compares texts by their code points, which
is the same order (`Text.bytes_lt_bytes`).
-/

namespace AlertSync

/-! ## The order of texts -/

namespace Text

/-- The bytes of a text in UTF-8. -/
def bytes (s : String) : List UInt8 := s.toUTF8.data.toList

/-- The bytes of a text are those of its characters. -/
theorem bytes_eq (s : String) : bytes s = s.toList.flatMap String.utf8EncodeChar := by
  have hencode : s.toUTF8 = s.toList.utf8Encode := String.utf8Encode_toList.symm
  unfold bytes
  rw [hencode, List.utf8Encode, List.data_toByteArray]

/-- Of two characters the lower has the lower bytes, whatever follows. The numbers of bytes are told
apart by the first byte. -/
theorem utf8EncodeChar_lt {a b : Char} (h : a < b) (x y : List UInt8) :
    String.utf8EncodeChar a ++ x < String.utf8EncodeChar b ++ y := by
  have hlt : a.val.toNat < b.val.toNat := UInt32.lt_iff_toNat_lt.1 h
  have hbound : b.val.toNat < 1114112 := by
    obtain hlow | ⟨-, hhigh⟩ := b.valid
    · exact Nat.lt_trans hlow (by decide)
    · exact hhigh
  have hdigits (n : Nat) : n / 4096 = n / 64 / 64 ∧ n / 262144 = n / 64 / 64 / 64 := by omega
  unfold String.utf8EncodeChar
  dsimp only
  simp only [hdigits]
  generalize a.val.toNat = m at *
  generalize b.val.toNat = n at *
  split_ifs <;>
    simp only [List.cons_append, List.nil_append, List.cons_lt_cons_iff, UInt8.lt_iff_toNat_lt,
      ← UInt8.toNat_inj, UInt8.toNat_ofNat'] <;>
    omega

/-- The order of texts by code points is that of their bytes. -/
theorem bytes_lt_bytes {s t : String} (h : s < t) : bytes s < bytes t := by
  rw [bytes_eq, bytes_eq]
  rw [String.lt_iff] at h
  generalize s.toList = l at h
  generalize t.toList = l' at h
  induction l generalizing l' with
  | nil =>
    obtain _ | ⟨b, l'⟩ := l'
    · exact absurd h (List.lt_irrefl [])
    · have hne : (b :: l').flatMap String.utf8EncodeChar ≠ [] := by
        rw [List.flatMap_cons]
        exact List.append_ne_nil_of_left_ne_nil String.utf8EncodeChar_ne_nil _
      obtain ⟨c, r, hcons⟩ := List.exists_cons_of_ne_nil hne
      rw [hcons]
      exact List.nil_lt_cons c r
  | cons a l ih =>
    obtain _ | ⟨b, l'⟩ := l'
    · exact absurd h (List.not_lt_nil _)
    · rw [List.flatMap_cons, List.flatMap_cons]
      obtain hab | ⟨rfl, hl⟩ := List.cons_lt_cons_iff.1 h
      · exact utf8EncodeChar_lt hab _ _
      · exact List.append_left_lt (ih l' hl)

end Text

/-! ## Calls to a store -/

/-- A call to a store. -/
inductive StoreCall
  | list (kind : Kind)
  | get (kind : Kind) (id : String)
  | create (kind : Kind) (id payload : String)
  | update (kind : Kind) (id payload : String)
  | delete (kind : Kind) (id : String)
  deriving DecidableEq

/-- What a call that succeeds is answered with. -/
inductive StoreAnswer
  | listed (objects : List StoredObject)
  | found (object : Option StoredObject)
  | changed
  deriving DecidableEq

/-- The error with which a call may be refused. -/
def StoreCall.refusal? : StoreCall → Option Error
  | list _ | get .. => none
  | create kind id _ => some (.exists kind id)
  | update kind id _ | delete kind id => some (.noEntry kind id)

/-- The objects in memory after a call. -/
def Objects.after (o : Objects) : StoreCall → Objects
  | .list _ | .get .. => o
  | .create kind id payload => (o.create kind id payload).toOption.getD o
  | .update kind id payload => (o.update kind id payload).toOption.getD o
  | .delete kind id => (o.delete kind id).toOption.getD o

/-- The table after the statement of a call, whatever that is then found to have touched. -/
def Table.after (t : Table) : StoreCall → Table
  | .list _ | .get .. => t
  | .create kind id payload => (t.insert? kind id payload).getD t
  | .update kind id payload => (t.updateKey kind id payload).1
  | .delete kind id => (t.deleteKey kind id).1

namespace Store

/-- The answer to a call, and the store that it returns. -/
def call (s : Store) : StoreCall → Except Error (StoreAnswer × Store)
  | .list kind => (s.list kind).map fun l => (.listed l, s)
  | .get kind id => (s.get? kind id).map fun o => (.found o, s)
  | .create kind id payload => (s.create kind id payload).map fun s' => (.changed, s')
  | .update kind id payload => (s.update kind id payload).map fun s' => (.changed, s')
  | .delete kind id => (s.delete kind id).map fun s' => (.changed, s')

/-- What a call makes of a store. -/
def after : Store → StoreCall → Store
  | memory o, c => memory (o.after c)
  | database d, c => database { d with table := d.table.map fun t => t.after c }

/-- What calls make of a store, one after the other. -/
def afterAll (s : Store) (calls : List StoreCall) : Store := calls.foldl after s

/-- Whether two stores answer a call alike: both with the same, and they become what they return; or
both refuse it with the same error and stay as they are. -/
def AnswersAlike (s t : Store) (c : StoreCall) : Prop :=
  match s.call c, t.call c with
  | .ok (x, s'), .ok (y, t') => x = y ∧ s.after c = s' ∧ t.after c = t'
  | .error e, .error e' => e = e' ∧ c.refusal? = some e ∧ s.after c = s ∧ t.after c = t
  | _, _ => False

variable {s t s' t' : Store} {c : StoreCall}

/-- Two stores answer a call alike that both answer with the same. -/
theorem answersAlike_of_ok {x : StoreAnswer} (hs : s.call c = .ok (x, s.after c))
    (ht : t.call c = .ok (x, t.after c)) : s.AnswersAlike t c := by
  unfold AnswersAlike
  rw [hs, ht]
  exact ⟨rfl, rfl, rfl⟩

/-- Two stores answer a call alike that both refuse with the same error. -/
theorem answersAlike_of_error {e : Error} (hrefusal : c.refusal? = some e)
    (hs : s.call c = .error e ∧ s.after c = s) (ht : t.call c = .error e ∧ t.after c = t) :
    s.AnswersAlike t c := by
  unfold AnswersAlike
  rw [hs.1, ht.1]
  exact ⟨rfl, hrefusal, hs.2, ht.2⟩

/-- Two stores answer a call alike that refuse it under the same condition. -/
theorem answersAlike_of_iff {p : Prop} {x : StoreAnswer} {e : Error}
    (hrefusal : c.refusal? = some e)
    (hs : p → s.call c = .ok (x, s.after c)) (ht : p → t.call c = .ok (x, t.after c))
    (hs' : ¬ p → s.call c = .error e ∧ s.after c = s)
    (ht' : ¬ p → t.call c = .error e ∧ t.after c = t) : s.AnswersAlike t c := by
  by_cases hp : p
  · exact answersAlike_of_ok (hs hp) (ht hp)
  · exact answersAlike_of_error hrefusal (hs' hp) (ht' hp)

end Store

namespace Database

variable {t : Table} {durable : Bool} {kind : Kind} {id payload : String}

/-- A row is added to a table that is there, unless its key is taken. -/
theorem create_open : (Database.mk (some t) durable).create kind id payload =
    match t.insert? kind id payload with
    | some t' => .ok ⟨some t', durable⟩
    | none => .error (.exists kind id) := by
  unfold create
  show (match t.insert? kind id payload with | some t' => _ | none => _) = _
  cases t.insert? kind id payload <;> rfl

/-- A statement that touches a row leaves what it has made of the table. -/
theorem touched_of_ne_zero {d : Database} {t : Table} {n : Nat} (h : n ≠ 0) :
    d.touched kind id (t, n) = .ok (d.withTable t) := by
  obtain _ | n := n
  · exact absurd rfl h
  · rfl

end Database

/-! ## Tables that hold objects -/

namespace Table

variable {t : Table} {o : Objects} {kind : Kind} {id payload : String}

/-- Whether the rows of a table are those of some objects, no key coming twice. -/
structure Holds (t : Table) (o : Objects) : Prop where
  nodup : (t.rows.map fun r => (r.kind, r.id)).Nodup
  kind : ∀ r ∈ t.rows, ∃ kind : Kind, r.kind = kind.name
  mem_iff : ∀ (kind : Kind) (id data : String),
    ⟨kind.name, id, data⟩ ∈ t.rows ↔ (o.shelf kind).find? id = some data

theorem hasKey_iff {r : Row} : r.hasKey kind id = true ↔ r.kind = kind.name ∧ r.id = id := by
  unfold Row.hasKey
  rw [Bool.and_eq_true, beq_iff_eq, beq_iff_eq]

/-- What is found when a payload was stored under a key. -/
theorem find?_shelf_insert (k : Kind) (i : String) :
    ((o.modify kind fun m => m.insert id payload).shelf k).find? i =
      if k = kind ∧ i = id then some payload else (o.shelf k).find? i := by
  rw [Objects.shelf_modify]
  by_cases hk : k = kind
  · simp only [hk, true_and, if_true, SortedMap.find?_insert]
  · simp only [hk, false_and, if_false]

/-- What is found when a key was taken out. -/
theorem find?_shelf_erase (k : Kind) (i : String) :
    ((o.modify kind fun m => m.erase id).shelf k).find? i =
      if k = kind ∧ i = id then none else (o.shelf k).find? i := by
  rw [Objects.shelf_modify]
  by_cases hk : k = kind
  · simp only [hk, true_and, if_true, SortedMap.find?_erase]
  · simp only [hk, false_and, if_false]

namespace Holds

/-- An empty table holds no objects. -/
theorem empty : Table.empty.Holds .empty where
  nodup := List.nodup_nil
  kind := nofun
  mem_iff kind _ _ := by cases kind <;> exact iff_of_false nofun nofun

/-- A key is in the table just where it is bound. -/
theorem any_hasKey (h : t.Holds o) (kind : Kind) (id : String) :
    (t.rows.any fun r => r.hasKey kind id) = (o.shelf kind).contains id := by
  rw [SortedMap.contains_eq_isSome, Bool.eq_iff_iff, List.any_eq_true, Option.isSome_iff_exists]
  constructor
  · rintro ⟨⟨k, i, data⟩, hr, hkey⟩
    obtain ⟨rfl, rfl⟩ := hasKey_iff.1 hkey
    exact ⟨data, (h.mem_iff _ _ _).1 hr⟩
  · rintro ⟨data, hfind⟩
    exact ⟨_, (h.mem_iff _ _ _).2 hfind, hasKey_iff.2 ⟨rfl, rfl⟩⟩

/-- A statement touches no row just where the key is not bound. -/
theorem countP_hasKey (h : t.Holds o) (kind : Kind) (id : String) :
    (t.rows.countP fun r => r.hasKey kind id) = 0 ↔ (o.shelf kind).contains id = false := by
  rw [← h.any_hasKey, List.countP_eq_zero, List.any_eq_false]

/-- The table with a row more holds the objects with one more. -/
theorem append (h : t.Holds o) (hfree : (o.shelf kind).contains id = false) :
    Holds ⟨t.rows ++ [⟨kind.name, id, payload⟩]⟩ (o.modify kind fun m => m.insert id payload) where
  nodup := by
    rw [List.map_append, List.nodup_append]
    refine ⟨h.nodup, List.nodup_singleton _, ?_⟩
    -- The key of the new row was not there, as it was not bound.
    rintro _ hr _ hnew rfl
    obtain ⟨r, hr, hkey⟩ := List.mem_map.1 hr
    obtain ⟨hk, hi⟩ := Prod.mk.inj (hkey.trans (List.mem_singleton.1 hnew))
    rw [← h.any_hasKey, List.any_eq_false] at hfree
    exact hfree r hr (hasKey_iff.2 ⟨hk, hi⟩)
  kind := by
    intro r hr
    obtain hr | hr := List.mem_append.1 hr
    · exact h.kind r hr
    · rw [List.mem_singleton.1 hr]
      exact ⟨kind, rfl⟩
  mem_iff := by
    intro k i data
    rw [find?_shelf_insert, List.mem_append, List.mem_singleton, h.mem_iff, Row.mk.injEq]
    split
    · next hkey =>
      obtain ⟨rfl, rfl⟩ := hkey
      have hnone : (o.shelf k).find? i ≠ some data := by
        rw [SortedMap.contains_eq_isSome] at hfree
        intro hfind
        rw [hfind] at hfree
        nomatch hfree
      constructor
      · rintro (hfind | ⟨-, -, rfl⟩)
        · exact absurd hfind hnone
        · rfl
      · intro hdata
        exact .inr ⟨rfl, rfl, (Option.some.inj hdata).symm⟩
    · next hkey =>
      constructor
      · rintro (hfind | ⟨hk, hi, -⟩)
        · exact hfind
        · exact absurd ⟨Kind.name_inj hk, hi⟩ hkey
      · exact .inl

/-- The table with new data under a key holds the objects with another payload there. -/
theorem updateKey (h : t.Holds o) (hbound : (o.shelf kind).contains id = true) :
    (t.updateKey kind id payload).1.Holds (o.modify kind fun m => m.insert id payload) where
  nodup := by
    show ((t.rows.map _).map _).Nodup
    rw [List.map_map]
    convert h.nodup using 2
    funext r
    rw [Function.comp_apply]
    split <;> rfl
  kind := by
    intro _ hmapped
    obtain ⟨r, hr, rfl⟩ := List.mem_map.1 hmapped
    obtain ⟨k, hk⟩ := h.kind r hr
    refine ⟨k, ?_⟩
    split <;> exact hk
  mem_iff := by
    intro k i data
    rw [find?_shelf_insert]
    show _ ∈ t.rows.map _ ↔ _
    rw [List.mem_map]
    split
    · next hkey =>
      obtain ⟨rfl, rfl⟩ := hkey
      rw [← h.any_hasKey, List.any_eq_true] at hbound
      obtain ⟨r, hr, hkey⟩ := hbound
      constructor
      · rintro ⟨r', -, heq⟩
        split at heq
        · rw [← (Row.mk.inj heq).2.2]
        · next hother =>
          rw [heq] at hother
          exact absurd (hasKey_iff.2 ⟨rfl, rfl⟩) hother
      · intro hdata
        refine ⟨r, hr, ?_⟩
        obtain ⟨hk, hi⟩ := hasKey_iff.1 hkey
        rw [if_pos hkey, Option.some.inj hdata, ← hk, ← hi]
    · next hkey =>
      rw [← h.mem_iff]
      have hother {r : Row} (hk : r.kind = k.name) (hi : r.id = i) : ¬ r.hasKey kind id = true := by
        rw [hasKey_iff, hk, hi]
        rintro ⟨hname, rfl⟩
        exact hkey ⟨Kind.name_inj hname, rfl⟩
      constructor
      · rintro ⟨r, hr, heq⟩
        split at heq
        · next hr' =>
          obtain ⟨hk, hi, -⟩ := Row.mk.inj heq
          exact absurd hr' (hother hk hi)
        · rw [← heq]
          exact hr
      · intro hr
        exact ⟨_, hr, if_neg (hother rfl rfl)⟩

/-- The table without a key holds the objects without it. -/
theorem deleteKey (h : t.Holds o) :
    (t.deleteKey kind id).1.Holds (o.modify kind fun m => m.erase id) where
  nodup := h.nodup.sublist (List.filter_sublist.map _)
  kind r hr := h.kind r (List.mem_filter.1 hr).1
  mem_iff := by
    intro k i data
    rw [find?_shelf_erase]
    show _ ∈ t.rows.filter _ ↔ _
    rw [List.mem_filter, Bool.not_eq_true', ← Bool.not_eq_true, hasKey_iff, h.mem_iff]
    split
    · next hkey =>
      obtain ⟨rfl, rfl⟩ := hkey
      exact iff_of_false (fun hr => hr.2 ⟨rfl, rfl⟩) nofun
    · next hkey =>
      refine and_iff_left ?_
      rintro ⟨hname, rfl⟩
      exact hkey ⟨Kind.name_inj hname, rfl⟩

/-- The rows of a kind are selected in the order of the map of that kind. -/
theorem selectKind (h : t.Holds o) (kind : Kind) :
    t.selectKind kind = (o.shelf kind).entries.map fun e => ⟨kind.name, e.1, e.2⟩ := by
  have hmem (r : Row) : r ∈ t.selectKind kind ↔ r ∈ t.rows ∧ r.kind = kind.name := by
    unfold Table.selectKind
    rw [List.mem_mergeSort, List.mem_filter, beq_iff_eq]
  have hsorted : (t.selectKind kind).Pairwise fun a b => a.id ≤ b.id := by
    have hle : (t.selectKind kind).Pairwise fun a b => decide (a.id ≤ b.id) = true := by
      apply List.pairwise_mergeSort
      · intro a b c hab hbc
        exact decide_eq_true (String.le_trans (of_decide_eq_true hab) (of_decide_eq_true hbc))
      · intro a b
        simpa using String.le_total a.id b.id
    exact hle.imp of_decide_eq_true
  have hkeys : (t.selectKind kind).Pairwise fun a b => (a.kind, a.id) ≠ (b.kind, b.id) := by
    have hrows := (List.pairwise_map.1 h.nodup).filter fun r => r.kind == kind.name
    exact (List.mergeSort_perm _ _).symm.pairwise hrows Ne.symm
  -- Rows of one kind that differ by their keys differ by their ids.
  have hascending : (t.selectKind kind).Pairwise fun a b => a.id < b.id := by
    apply (hsorted.and hkeys).imp_of_mem
    rintro a b ha hb ⟨hle, hne⟩
    rw [((hmem a).1 ha).2, ((hmem b).1 hb).2] at hne
    by_contra hlt
    exact hne (congrArg _ (String.le_antisymm hle (String.not_lt.1 hlt)))
  apply SortedMap.eq_of_ascending Row.id hascending
  · rw [List.pairwise_map]
    exact (o.shelf kind).ascending
  · rintro ⟨k, id, data⟩
    rw [hmem, List.mem_map]
    constructor
    · rintro ⟨hr, rfl⟩
      exact ⟨(id, data), SortedMap.mem_entries_iff.2 ((h.mem_iff _ _ _).1 hr), rfl⟩
    · rintro ⟨e, he, heq⟩
      obtain ⟨rfl, rfl, rfl⟩ := Row.mk.inj heq
      exact ⟨(h.mem_iff _ _ _).2 (SortedMap.mem_entries_iff.1 he), rfl⟩

/-- The objects of a kind are listed as in memory. -/
theorem mapM_selectKind (h : t.Holds o) (kind : Kind) :
    (t.selectKind kind).mapM Row.object = .ok (o.list kind) := by
  have hread : (Row.object ∘ fun e : String × String => (⟨kind.name, e.1, e.2⟩ : Row)) =
      fun e => pure ⟨kind, e.1, e.2⟩ := by
    funext e
    rw [Function.comp_apply, Row.object, Kind.ofName?_name]
    rfl
  rw [h.selectKind, List.mapM_map, hread]
  exact List.mapM_pure

/-- The object under a key is found as in memory. -/
theorem mapM_selectKey? (h : t.Holds o) (kind : Kind) (id : String) :
    (t.selectKey? kind id).mapM Row.object = .ok (o.get? kind id) := by
  unfold Table.selectKey? Objects.get?
  cases hfind : t.rows.find? fun r => r.hasKey kind id with
  | none =>
    have hfree : (o.shelf kind).contains id = false := by
      rw [← h.any_hasKey, List.any_eq_false]
      exact List.find?_eq_none.1 hfind
    rw [SortedMap.contains_eq_isSome, Option.isSome_eq_false_iff,
      Option.isNone_iff_eq_none] at hfree
    rw [hfree]
    rfl
  | some r =>
    obtain ⟨k, i, data⟩ := r
    have hkey := List.find?_some (p := fun r : Row => r.hasKey kind id) hfind
    obtain ⟨rfl, rfl⟩ := hasKey_iff.1 hkey
    rw [(h.mem_iff kind i data).1 (List.mem_of_find?_eq_some hfind)]
    show (Row.object _ >>= fun x => pure (some x)) = _
    rw [Row.object, Kind.ofName?_name]
    rfl

end Holds

/-- A statement that updates no row leaves the table as it is. -/
theorem updateKey_of_free (hfree : (t.rows.any fun r => r.hasKey kind id) = false) :
    (t.updateKey kind id payload).1 = t := by
  rw [List.any_eq_false] at hfree
  obtain ⟨rows⟩ := t
  show Table.mk _ = _
  congr 1
  conv_rhs => rw [← List.map_id rows]
  apply List.map_congr_left
  intro r hr
  exact if_neg (hfree r hr)

/-- A statement that deletes no row leaves the table as it is. -/
theorem deleteKey_of_free (hfree : (t.rows.any fun r => r.hasKey kind id) = false) :
    (t.deleteKey kind id).1 = t := by
  rw [List.any_eq_false] at hfree
  obtain ⟨rows⟩ := t
  show Table.mk _ = _
  congr 1
  rw [List.filter_eq_self]
  intro r hr
  rw [Bool.not_eq_true', ← Bool.not_eq_true]
  exact hfree r hr

namespace Holds

/-- What a call makes of the table is what it makes of the objects. -/
theorem after (h : t.Holds o) (c : StoreCall) : (t.after c).Holds (o.after c) := by
  cases c with
  | list _ | get _ _ => exact h
  | create kind id payload =>
    show ((t.insert? kind id payload).getD t).Holds ((o.create kind id payload).toOption.getD o)
    unfold Table.insert? Objects.create
    rw [h.any_hasKey]
    cases hbound : (o.shelf kind).contains id with
    | true => exact h
    | false => exact h.append hbound
  | update kind id payload =>
    show (t.updateKey kind id payload).1.Holds ((o.update kind id payload).toOption.getD o)
    unfold Objects.update
    cases hbound : (o.shelf kind).contains id with
    | true => exact h.updateKey hbound
    | false =>
      rw [updateKey_of_free ((h.any_hasKey kind id).trans hbound)]
      exact h
  | delete kind id =>
    show (t.deleteKey kind id).1.Holds ((o.delete kind id).toOption.getD o)
    unfold Objects.delete
    cases hbound : (o.shelf kind).contains id with
    | true => exact h.deleteKey
    | false =>
      rw [deleteKey_of_free ((h.any_hasKey kind id).trans hbound)]
      exact h

/-- A statement that must touch a row is answered as a change in memory that needs the key. -/
theorem answersAlike_of_touched {durable : Bool} {c : StoreCall} (statement : Table × Nat)
    {f : SortedMap String → SortedMap String}
    (hrefusal : c.refusal? = some (.noEntry kind id))
    (hmemory : (Store.memory o).call c =
      (Except.map Store.memory (if (o.shelf kind).contains id then .ok (o.modify kind f)
        else .error (.noEntry kind id))).map fun s => (.changed, s))
    (hmade : o.after c = (Except.toOption (if (o.shelf kind).contains id then .ok (o.modify kind f)
      else .error (Error.noEntry kind id))).getD o)
    (hdatabase : (Store.database ⟨some t, durable⟩).call c =
      (((Database.mk (some t) durable).touched kind id statement).map .database).map
        fun s => (.changed, s))
    (hstatement : t.after c = statement.1)
    (hcount : statement.2 = 0 ↔ (o.shelf kind).contains id = false)
    (hsame : (o.shelf kind).contains id = false → statement.1 = t) :
    (Store.memory o).AnswersAlike (.database ⟨some t, durable⟩) c := by
  obtain ⟨t', n⟩ := statement
  apply Store.answersAlike_of_iff (p := (o.shelf kind).contains id = true) hrefusal
  · intro hbound
    rw [hmemory, Store.after, hmade, if_pos hbound]
    rfl
  · intro hbound
    have hrows : n ≠ 0 := by
      rw [ne_eq, hcount, hbound]
      exact Bool.noConfusion
    rw [hdatabase, Database.touched_of_ne_zero hrows]
    simp only [Store.after, Option.map_some, hstatement]
    rfl
  · intro hfree
    rw [hmemory, Store.after, hmade, if_neg hfree]
    exact ⟨rfl, rfl⟩
  · intro hfree
    obtain rfl : n = 0 := hcount.2 (Bool.eq_false_iff.2 hfree)
    have hunchanged : t.after c = t := hstatement.trans (hsame (Bool.eq_false_iff.2 hfree))
    rw [hdatabase, Store.after, Option.map_some, hunchanged]
    exact ⟨rfl, rfl⟩

/-- A database answers a call as the objects in memory do that it holds. -/
theorem answersAlike (h : t.Holds o) (durable : Bool) (c : StoreCall) :
    (Store.memory o).AnswersAlike (.database ⟨some t, durable⟩) c := by
  cases c with
  | list kind =>
    have hlist : (Database.mk (some t) durable).list kind = .ok (o.list kind) :=
      h.mapM_selectKind kind
    apply Store.answersAlike_of_ok (x := .listed (o.list kind)) rfl
    show ((Database.mk (some t) durable).list kind).map _ = _
    rw [hlist]
    rfl
  | get kind id =>
    have hget : (Database.mk (some t) durable).get? kind id = .ok (o.get? kind id) :=
      h.mapM_selectKey? kind id
    apply Store.answersAlike_of_ok (x := .found (o.get? kind id)) rfl
    show ((Database.mk (some t) durable).get? kind id).map _ = _
    rw [hget]
    rfl
  | create kind id payload =>
    have htaken := h.any_hasKey kind id
    apply Store.answersAlike_of_iff (p := (o.shelf kind).contains id = false) rfl
    · intro hfree
      have hmemory : o.create kind id payload = .ok _ := if_neg (Bool.eq_false_iff.1 hfree)
      simp only [Store.call, Store.create, Store.after, Objects.after, hmemory]
      rfl
    · intro hfree
      have hinsert : t.insert? kind id payload = some _ :=
        if_neg (Bool.eq_false_iff.1 (htaken.trans hfree))
      simp only [Store.call, Store.create, Store.after, Table.after, Option.map_some,
        Database.create_open, hinsert]
      rfl
    · intro hbound
      have hmemory : o.create kind id payload = .error _ := if_pos (Bool.of_not_eq_false hbound)
      simp only [Store.call, Store.create, Store.after, Objects.after, hmemory]
      exact ⟨rfl, rfl⟩
    · intro hbound
      have hinsert : t.insert? kind id payload = none :=
        if_pos (htaken.trans (Bool.of_not_eq_false hbound))
      simp only [Store.call, Store.create, Store.after, Table.after, Option.map_some,
        Database.create_open, hinsert]
      exact ⟨rfl, rfl⟩
  | update kind id payload =>
    apply answersAlike_of_touched (t.updateKey kind id payload) rfl rfl rfl rfl rfl
    · exact h.countP_hasKey kind id
    · intro hfree
      exact updateKey_of_free ((h.any_hasKey kind id).trans hfree)
  | delete kind id =>
    apply answersAlike_of_touched (t.deleteKey kind id) rfl rfl rfl rfl rfl
    · exact h.countP_hasKey kind id
    · intro hfree
      exact deleteKey_of_free ((h.any_hasKey kind id).trans hfree)

/-- Calls one after the other leave a table that holds the objects in memory. -/
theorem exists_afterAll (h : t.Holds o) (durable : Bool) (calls : List StoreCall) :
    ∃ t' o', t'.Holds o' ∧ (Store.memory o).afterAll calls = .memory o' ∧
      (Store.database ⟨some t, durable⟩).afterAll calls = .database ⟨some t', durable⟩ := by
  induction calls generalizing t o with
  | nil => exact ⟨t, o, h, rfl, rfl⟩
  | cons c calls ih => exact ih (h.after c)

end Holds

end Table

/-! ## The stores -/

/-- What a listing of a kind may be: all objects of the kind that the store finds, and no other, in
the order of the bytes of their ids, so that none comes twice. -/
structure Store.IsListing (s : Store) (kind : Kind) (l : List StoredObject) : Prop where
  ascending : l.Pairwise fun a b => Text.bytes a.id < Text.bytes b.id
  mem_iff : ∀ x, x ∈ l ↔ x.kind = kind ∧ s.get? kind x.id = .ok (some x)

/-- Objects in memory are listed in their order. -/
theorem Objects.isListing (o : Objects) (kind : Kind) :
    (Store.memory o).IsListing kind (o.list kind) where
  ascending := by
    unfold list
    rw [List.pairwise_map]
    exact (o.shelf kind).ascending.imp Text.bytes_lt_bytes
  mem_iff := by
    rintro ⟨k, id, payload⟩
    show _ ↔ _ ∧ Except.ok (((o.shelf kind).find? id).map _) = Except.ok _
    unfold list
    rw [List.mem_map]
    constructor
    · rintro ⟨e, he, heq⟩
      obtain ⟨rfl, rfl, rfl⟩ := StoredObject.mk.inj heq
      rw [SortedMap.mem_entries_iff.1 he]
      exact ⟨rfl, rfl⟩
    · rintro ⟨rfl, hfound⟩
      obtain ⟨data, hdata, heq⟩ := Option.map_eq_some_iff.1 (Except.ok.inj hfound)
      obtain ⟨-, -, rfl⟩ := StoredObject.mk.inj heq
      exact ⟨(id, data), SortedMap.mem_entries_iff.2 hdata, rfl⟩

/-- A store in memory and one in a database, both empty at first and used alike, answer every call
alike, and list the objects of every kind in their order. -/
theorem Store.interchangeable (durable : Bool) (calls : List StoreCall) :
    let m := (Store.memory .empty).init.afterAll calls
    let d := (Store.database (.blank durable)).init.afterAll calls
    (∀ c, m.AnswersAlike d c) ∧
      ∀ kind, ∃ l, m.list kind = .ok l ∧ d.list kind = .ok l ∧ m.IsListing kind l := by
  obtain ⟨t, o, h, hm, hd⟩ := Table.Holds.empty.exists_afterAll durable calls
  intro m d
  have hmemory : m = .memory o := hm
  have hdatabase : d = .database ⟨some t, durable⟩ := hd
  rw [hmemory, hdatabase]
  refine ⟨h.answersAlike durable, fun kind => ?_⟩
  exact ⟨o.list kind, rfl, h.mapM_selectKind kind, o.isListing kind⟩

end AlertSync
