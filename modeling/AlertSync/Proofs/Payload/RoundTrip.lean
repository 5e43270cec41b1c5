import AlertSync.LiveAlert
import AlertSync.Proofs.Payload
import AlertSync.Proofs.SortedMap

/-!
# Reading back whatever is written

Every object is read from its payload as it was, under its kind, and every live alert from its JSON
(`read_written`). To what is known of the parts of objects this adds lists and maps of texts, which
are read back item by item (`list?_formOf`, `textMap?_formOf`), and parts that may be null: what is
there is read as if it could not be (`orElse?_formOf`).
-/

namespace AlertSync

/-- The items of a list are read in their order. -/
theorem Json.formOf_list (items : List Tree) :
    formOf (.list items) = .list true (items.map formOf) := by
  show Form.list true (Value.form.formList (valueOf.valuesOf items)) = _
  congr 1
  induction items with
  | nil => rfl
  | cons t items ih =>
    rw [List.map_cons, ← ih]
    rfl

namespace Form

open Json (formOf)

variable {α : Type}

/-- Only what is written as absent counts as that. -/
theorem optional?_formOf {t : Tree} (h : t ≠ .absent) (read : Form → Option α) :
    optional? read (formOf t) = (read (formOf t)).map some := by
  cases t with
  | absent => exact absurd rfl h
  | flag _ | number _ | text _ => rfl
  | list items =>
    rw [Json.formOf_list]
    rfl
  | record parts =>
    rw [Json.formOf_record]
    rfl

/-- A default takes the place of nothing that is there. -/
theorem orElse?_formOf {t : Tree} (h : t ≠ .absent) (default : α) (read : Form → Option α) :
    orElse? default read (formOf t) = read (formOf t) := by
  unfold orElse?
  rw [optional?_formOf h, Option.map_map]
  exact Option.map_id'

/-- Written items are read as themselves if each is. -/
theorem list?_formOf_map {read : Form → Option α} {item : α → Tree}
    (h : ∀ x, read (formOf (item x)) = some x) (l : List α) :
    list? read (formOf (.list (l.map item))) = some l := by
  have hread : read ∘ formOf ∘ item = some := funext h
  rw [Json.formOf_list, List.map_map]
  show (l.map (formOf ∘ item)).mapM read = some l
  rw [List.mapM_map, hread]
  exact (List.mapM_pure (m := Option) (f := id)).trans (congrArg some l.map_id)

/-- Written texts are read as themselves. -/
theorem list?_formOf (l : List String) : list? text? (formOf (.texts l)) = some l :=
  list?_formOf_map (fun _ => rfl) l

/-- A written map of texts is read as itself. -/
theorem textMap?_formOf (m : SortedMap String) : textMap? (formOf (.textRecord m)) = some m := by
  have hentries : (m.entries.map fun e : String × String => (some e.1, formOf (.text e.2))).mapM
      (fun (p : Option String × Form) => do return (← p.1, ← p.2.text?)) = some m.entries := by
    rw [List.mapM_map]
    exact (List.mapM_pure (m := Option) (f := id)).trans (congrArg some m.entries.map_id)
  unfold Tree.textRecord
  rw [Json.formOf_record, List.map_map]
  show Option.map SortedMap.ofList (List.mapM _
    (m.entries.map fun e : String × String => (some e.1, formOf (.text e.2)))) = some m
  rw [hentries, Option.map_some, SortedMap.ofList_entries]

/-- A moment that may be missing is read as itself, and as missing where it is. -/
theorem optional?_timestamp?_getD (t : Option Timestamp) :
    optional? Alert.timestamp? (formOf ((t.map fun t => .text t.text).getD .absent)) = some t := by
  cases t with
  | none => rfl
  | some t => exact optional?_timestamp?_formOf t

end Form

/-- A written status is read as itself. -/
theorem LiveStatus.ofForm?_tree (s : LiveStatus) : ofForm? (Json.formOf s.tree) = some s := by
  unfold ofForm? tree
  rw [Json.parts?_formOf]
  · have htexts (l : List String) : Form.orElse? [] (Form.list? Form.text?)
        (Json.formOf (.texts l)) = some l := by
      rw [Form.orElse?_formOf (t := .texts l) nofun, Form.list?_formOf]
    simp [Form.orElse?_formOf, htexts]
  · exact .refl _
  · decide

/-- A written live alert is read as itself. -/
theorem LiveAlert.ofForm?_tree (l : LiveAlert) : ofForm? (Json.formOf l.tree) = some l := by
  unfold ofForm? tree
  rw [Json.parts?_formOf]
  · have hmap (m : SortedMap String) : Form.orElse? .empty Form.textMap?
        (Json.formOf (.textRecord m)) = some m := by
      rw [Form.orElse?_formOf (t := .textRecord m) nofun, Form.textMap?_formOf]
    have hstatus : Form.orElse? .none LiveStatus.ofForm? (Json.formOf l.status.tree) =
        some l.status := by
      rw [Form.orElse?_formOf (t := l.status.tree) nofun, LiveStatus.ofForm?_tree]
    simp [hmap, hstatus, Form.optional?_timestamp?_getD]
  · exact .refl _
  · decide

namespace Resource

/-- A written object is read, under its kind, as itself. -/
theorem ofForm?_tree (r : Resource) : ofForm? r.kind (Json.formOf r.tree) = some r := by
  cases r with
  | alert a => exact congrArg (Option.map alert) a.ofForm?_tree
  | recipient r => exact congrArg (Option.map recipient) r.ofForm?_tree
  | alertConfig c => exact congrArg (Option.map alertConfig) c.ofForm?_tree

/-- A payload is read, under the kind of its object, as that object. -/
theorem decode_encode (r : Resource) : decode r.kind r.encode = .ok r := by
  unfold decode encode
  rw [Json.form?_text, Option.bind_some, r.ofForm?_tree]

end Resource

/-- What is written of any object is read, under its kind, as that object; and what is written of
any live alert as that live alert. -/
theorem read_written :
    (∀ r : Resource, Resource.decode r.kind r.encode = .ok r) ∧
      ∀ l : LiveAlert, (Json.form? (Json.text l.tree)).bind LiveAlert.ofForm? = some l := by
  refine ⟨Resource.decode_encode, ?_⟩
  intro l
  rw [Json.form?_text, Option.bind_some, l.ofForm?_tree]

end AlertSync
