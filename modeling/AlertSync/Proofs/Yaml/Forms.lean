import AlertSync.Proofs.Forms
import AlertSync.Proofs.SortedMap
import AlertSync.Proofs.Yaml.RoundTrip
import AlertSync.Yaml.Document

/-!
# Reading back written trees

The form of a written tree is that of its node (`form?_text`), in which nothing is named and no
reference is followed (`formOf_nodeOf`). A string is found as itself: where it stands without quotes
its text denotes nothing else (`readings_text`). Lists and records are found part by part, as far
down as collections may be nested.
-/

namespace AlertSync

namespace Yaml

open Document (readings)

/-- How what is asked for of a written tree can be read, within as many levels of collections. -/
def formOf : Nat → Shape → Tree → Form
  | _, _, .absent => .scalar (readings none .plain "null".toList)
  | _, _, .flag b => .scalar (readings none .plain (if b then "true".toList else "false".toList))
  | _, _, .number n => .scalar (readings none .plain (Numeral.decimal n))
  | _, _, .text s => .scalar (readings none (written s.toList false) s.toList)
  | depth + 1, .list shape, .list items => .list false (items.map (formOf depth shape))
  | _, _, .list _ => .unreadable
  | 0, _, .record _ => .unreadable
  | depth + 1, shape, .record parts =>
    if shape.hasParts then
      .record <| parts.map fun p =>
        (some p.1, ((shape.part? (some p.1)).map fun s => formOf depth s p.2).getD .unreadable)
    else .unreadable

/-! ## Nodes -/

theorem nodesOf_eq_map {ν : Type} (items : List Tree) :
    (nodeOf.nodesOf items : List (Node ν)) = items.map nodeOf := by
  induction items with
  | nil => rfl
  | cons t items ih => rw [nodeOf.nodesOf, ih, List.map_cons]

theorem entriesOf_eq_map {ν : Type} (parts : List (String × Tree)) :
    (nodeOf.entriesOf parts : List (Node ν × Node ν)) =
      parts.map fun p => (nameNode p.1, nodeOf p.2) := by
  induction parts with
  | nil => rfl
  | cons p parts ih => rw [nodeOf.entriesOf, ih, List.map_cons]

/-- What is read of each without jumps is read of all without jumps. -/
theorem each_map {α β γ : Type} {read : Nat → β → γ × Nat} {g : α → β} {f : α → γ}
    (h : ∀ jumps a, read jumps (g a) = (f a, jumps)) (jumps : Nat) (l : List α) :
    Document.each read jumps (l.map g) = (l.map f, jumps) := by
  induction l with
  | nil => rfl
  | cons a l ih => simp only [List.map_cons, Document.each, h, ih]

/-- Nothing that is written is a reference. -/
theorem follow?_nodeOf (d : Document) (jumps : Nat) (t : Tree) :
    d.follow? jumps (nodeOf t) = some (nodeOf t, jumps) := by
  cases t <;> rfl

/-- A name is found as itself. -/
theorem keyText?_nameNode (d : Document) (jumps : Nat) (name : String) :
    d.keyText? jumps (nameNode name) = (some name, jumps) := by
  show (some (String.ofList name.toList), jumps) = _
  rw [String.ofList_toList]

/-- The form of the node of a tree. -/
theorem formOf_nodeOf (d : Document) : ∀ (depth : Nat) (shape : Shape) (jumps : Nat) (t : Tree),
    d.formOf depth shape jumps (nodeOf t) = (formOf depth shape t, jumps) := by
  intro depth
  induction depth with
  | zero =>
    intro shape jumps t
    unfold Document.formOf
    rw [follow?_nodeOf]
    cases t <;> rfl
  | succ depth ih =>
    intro shape jumps t
    unfold Document.formOf
    rw [follow?_nodeOf]
    cases t with
    | absent | flag _ | number _ | text _ => rfl
    | list items =>
      cases shape with
      | list shape =>
        simp only [nodeOf, nodesOf_eq_map, each_map (ih shape), formOf]
      | scalar | map | record _ => rfl
    | record parts =>
      simp only [nodeOf, entriesOf_eq_map, formOf]
      rw [each_map (f := fun p => (some p.1,
        ((shape.part? (some p.1)).map fun s => formOf depth s p.2).getD .unreadable))]
      · split <;> rfl
      · intro j p
        simp only [keyText?_nameNode]
        cases shape.part? (some p.1) with
        | none => rfl
        | some shape =>
          simp only [ih]
          rfl

mutual

/-- Nothing that is written has a name. -/
theorem number_nodeOf : ∀ (t : Tree) (names : Node.Names),
    Node.number (nodeOf t) names = some (nodeOf t, names)
  | .absent, _ | .flag _, _ | .number _, _ | .text _, _ => rfl
  | .list items, names => by
    show (Node.numberItems (nodeOf.nodesOf items) names).bind _ = _
    rw [numberItems_nodesOf items names]
    rfl
  | .record parts, names => by
    show (Node.numberEntries (nodeOf.entriesOf parts) names).bind _ = _
    rw [numberEntries_entriesOf parts names]
    rfl

theorem numberItems_nodesOf : ∀ (items : List Tree) (names : Node.Names),
    Node.numberItems (nodeOf.nodesOf items) names = some (nodeOf.nodesOf items, names)
  | [], _ => rfl
  | t :: r, names => by
    show (Node.number (nodeOf t) names).bind _ = _
    rw [number_nodeOf t names]
    show (Node.numberItems (nodeOf.nodesOf r) names).bind _ = _
    rw [numberItems_nodesOf r names]
    rfl

theorem numberEntries_entriesOf : ∀ (parts : List (String × Tree)) (names : Node.Names),
    Node.numberEntries (nodeOf.entriesOf parts) names = some (nodeOf.entriesOf parts, names)
  | [], _ => rfl
  | (name, t) :: r, names => by
    show (Node.number (nodeOf t) names).bind _ = _
    rw [number_nodeOf t names]
    show (Node.numberEntries (nodeOf.entriesOf r) names).bind _ = _
    rw [numberEntries_entriesOf r names]
    rfl

end

/-- How what is asked for of the text of a tree can be read. -/
theorem form?_text (shape : Shape) (t : Tree) :
    form? shape (text (ofTree t)) = some (formOf Form.maxDepth shape t) := by
  have hnumber : (nodeOf t).number.run [] = some (nodeOf t, []) := number_nodeOf t []
  unfold form? Document.parse? Document.ofNode?
  simp only [document?_text, hnumber, Option.bind_eq_bind, Option.bind_some, Option.pure_def,
    Option.map_some]
  show some (Document.formOf _ Form.maxDepth shape 0 (nodeOf t)).1 = _
  rw [formOf_nodeOf]

/-! ## Scalars -/

/-- A string is found as its text, and as nothing else. -/
theorem formOf_text (depth : Nat) (shape : Shape) (s : String) :
    formOf depth shape (.text s) = .scalar ⟨some s, none, none, some false, false⟩ := by
  have hreadings : readings none (written s.toList false) s.toList =
      ⟨some s, none, none, some false, false⟩ := by
    have hquoted {w : Written} (hw : w ≠ .plain) :
        readings none w s.toList = ⟨some s, none, none, some false, false⟩ := by
      cases w with
      | plain => exact absurd rfl hw
      | literal | quoted => simp [readings]
    unfold written
    rcases style_cases s.toList false with ⟨h, -, htext⟩ | ⟨h, -⟩ | h | ⟨h, -⟩ <;> rw [h]
    · -- Text without quotes is text.
      unfold Plain.of at htext
      split at htext
      · cases htext
      next hnull =>
      split at htext
      · cases htext
      next hflag =>
      simp only [not_or, Bool.not_eq_true] at hnull
      simp [readings, hnull, hflag]
    · exact hquoted nofun
    · exact hquoted nofun
    · exact hquoted nofun
  rw [formOf, hreadings]

/-! ## Collections -/

section

variable {α : Type} {depth : Nat} {shape : Shape} {fields : List (String × Shape)}
  {parts : List (String × Tree)} {name : String} {read : Form → Option α}

/-- A list is read item by item. -/
theorem list?_formOf (items : List Tree) :
    Form.list? read (formOf (depth + 1) (.list shape) (.list items)) =
      items.mapM fun t => read (formOf depth shape t) := by
  rw [formOf, Form.list?, List.mapM_map]
  rfl

/-- A list is read back if its items are. -/
theorem list?_formOf_map {tree : α → Tree} {l : List α}
    (h : ∀ a ∈ l, read (formOf depth shape (tree a)) = some a) :
    Form.list? read (formOf (depth + 1) (.list shape) (.list (l.map tree))) = some l := by
  rw [list?_formOf, List.mapM_map]
  exact mapM_eq_some h

/-- The parts of a written record as a reader of these parts finds them. -/
def formsOf (depth : Nat) (fields : List (String × Shape)) (parts : List (String × Tree)) :
    List (String × Form) :=
  parts.map fun p =>
    (p.1, ((fields.lookup p.1).map fun s => formOf depth s p.2).getD .unreadable)

theorem formOf_record :
    formOf (depth + 1) (.record fields) (.record parts) =
      .record ((formsOf depth fields parts).map fun p => (some p.1, p.2)) := by
  rw [formOf, formsOf, List.map_map]
  rfl

/-- A record is read by a reader that knows all of its names. -/
theorem parts?_formOf (hsub : (parts.map (·.1)).Sublist (Shape.record fields).names)
    (hdistinct : (Shape.record fields).names.Nodup) :
    (formOf (depth + 1) (.record fields) (.record parts)).parts? (Shape.record fields).names =
      some (formsOf depth fields parts) := by
  have hnames : (formsOf depth fields parts).map (·.1) = parts.map (·.1) := by
    rw [formsOf, List.map_map]
    rfl
  rw [formOf_record]
  exact Form.parts?_record (hnames ▸ hsub) hdistinct

theorem lookup_formsOf (hshape : fields.lookup name = some shape) :
    (formsOf depth fields parts).lookup name = (parts.lookup name).map (formOf depth shape) := by
  unfold formsOf
  induction parts with
  | nil => rfl
  | cons p parts ih =>
    rw [List.map_cons, List.lookup_cons, List.lookup_cons]
    by_cases h : name = p.1
    · subst h
      simp [hshape]
    · rw [beq_false_of_ne h]
      exact ih

/-- A part that must be there is read from what was written under its name. -/
theorem required?_formsOf (hshape : fields.lookup name = some shape) (t : Tree) {o : Option α}
    (hlookup : parts.lookup name = some t) (hread : read (formOf depth shape t) = o) :
    Form.required? (formsOf depth fields parts) name read = o := by
  unfold Form.required?
  rw [lookup_formsOf hshape, hlookup]
  exact hread

/-- A part is read from what was written under its name. -/
theorem part?_formsOf (hshape : fields.lookup name = some shape) (t : Tree) {default : α}
    {o : Option α} (hlookup : parts.lookup name = some t)
    (hread : read (formOf depth shape t) = o) :
    Form.part? (formsOf depth fields parts) name default read = o := by
  unfold Form.part?
  rw [lookup_formsOf hshape, hlookup]
  exact hread

/-- A value that may be left out is read back if its text is. -/
theorem part?_formsOf_optional (value : Option α) (word : α → String)
    (hshape : fields.lookup name = some shape)
    (hlookup : parts.lookup name = value.map fun a => .text (word a))
    (hread : ∀ a ∈ value, read (formOf depth shape (.text (word a))) = some a) :
    Form.part? (formsOf depth fields parts) name none (Form.optional? read) = some value := by
  unfold Form.part?
  rw [lookup_formsOf hshape, hlookup]
  cases value with
  | none => rfl
  | some a =>
    have ha := hread a rfl
    show Form.optional? read (formOf depth shape (.text (word a))) = some (some a)
    rw [formOf_text] at ha ⊢
    show (read _).map some = _
    rw [ha]
    rfl

/-- A list that is left out when it is empty is read back if its items are. -/
theorem part?_formsOf_list (l : List α) (tree : α → Tree)
    (hshape : fields.lookup name = some (.list shape))
    (hlookup : parts.lookup name = if l.isEmpty then none else some (.list (l.map tree)))
    (hread : ∀ a ∈ l, read (formOf depth shape (tree a)) = some a) :
    Form.part? (formsOf (depth + 1) fields parts) name [] (Form.list? read) = some l := by
  unfold Form.part?
  rw [lookup_formsOf hshape, hlookup]
  cases l with
  | nil => rfl
  | cons a l => exact list?_formOf_map hread

/-- A list that is left out when it is empty is read back if its items are, and if it is not nested
too deep; otherwise it is not read. -/
theorem part?_formsOf_list_eq_ite (l : List α) (tree : α → Tree)
    (hshape : fields.lookup name = some (.list shape))
    (hlookup : parts.lookup name = if l.isEmpty then none else some (.list (l.map tree)))
    (hread : ∀ d, depth = d + 1 → ∀ a ∈ l,
      read (formOf d shape (tree a)) = if (tree a).depth ≤ d then some a else none) :
    Form.part? (formsOf depth fields parts) name [] (Form.list? read) =
      if ∀ a ∈ l, (tree a).depth + 1 ≤ depth then some l else none := by
  unfold Form.part?
  rw [lookup_formsOf hshape, hlookup]
  cases l with
  | nil => simp
  | cons a l =>
    show Form.list? read (formOf depth (.list shape) (.list ((a :: l).map tree))) = _
    cases depth with
    | zero =>
      rw [if_neg fun h => absurd (h a List.mem_cons_self) (Nat.not_succ_le_zero _)]
      rfl
    | succ d =>
      rw [list?_formOf, List.mapM_map]
      simp only [Nat.add_le_add_iff_right]
      exact mapM_eq_ite (hread d rfl)

/-- What was written of a part is nested less deep than what was written of the record. -/
theorem depth_formOf_lt_record (name : String) {t : Tree} (hshape : fields.lookup name = some shape)
    (hlookup : parts.lookup name = some t) :
    (formOf depth shape t).depth < (formOf (depth + 1) (.record fields) (.record parts)).depth := by
  have hpart : (formsOf depth fields parts).lookup name = some (formOf depth shape t) := by
    rw [lookup_formsOf hshape, hlookup]
    rfl
  obtain ⟨l, r, hparts, -⟩ := List.lookup_eq_some_iff.1 hpart
  have hmem : (some name, formOf depth shape t) ∈
      (formsOf depth fields parts).map fun p => (some p.1, p.2) := by
    rw [hparts]
    simp
  rw [formOf_record]
  exact Form.depth_lt_record hmem

/-- What was written of an item is nested less deep than what was written of the list. -/
theorem depth_formOf_lt_list {t : Tree} {items : List Tree} (h : t ∈ items) :
    (formOf depth shape t).depth < (formOf (depth + 1) (.list shape) (.list items)).depth := by
  rw [formOf]
  exact Form.depth_lt_list (List.mem_map_of_mem h) false

end

/-- A text is read back. -/
theorem text?_formOf (depth : Nat) (shape : Shape) (s : String) :
    Form.text? (formOf depth shape (.text s)) = some s := by
  rw [formOf_text]
  rfl

/-- A flag is read back. -/
theorem flag?_formOf (depth : Nat) (shape : Shape) (b : Bool) :
    Form.flag? (formOf depth shape (.flag b)) = some b := by
  rw [formOf]
  cases b <;> rfl

/-- A map of texts is read back. -/
theorem textMap?_formOf (depth : Nat) (m : SortedMap String) :
    Form.textMap? (formOf (depth + 1) .map (Tree.textRecord m)) = some m := by
  have hform : formOf (depth + 1) .map (Tree.textRecord m) = .record (m.entries.map fun e =>
      (some e.1, .scalar ⟨some e.2, none, none, some false, false⟩)) := by
    rw [Tree.textRecord, formOf, List.map_map]
    refine congrArg Form.record (List.map_congr_left fun e _ => ?_)
    show (some e.1, formOf depth .scalar (.text e.2)) = _
    rw [formOf_text]
  have htexts : (m.entries.map fun e => (some e.1,
      Form.scalar ⟨some e.2, none, none, some false, false⟩)).mapM
        (fun (p : Option String × Form) => do return (← p.1, ← p.2.text?)) = some m.entries := by
    rw [List.mapM_map]
    exact mapM_eq_some fun e _ => rfl
  rw [hform]
  unfold Form.textMap?
  dsimp only
  rw [htexts, Option.map_some, SortedMap.ofList_entries]

/-- A map that is left out when it is empty is read back if it is not nested too deep; otherwise it
is not read. -/
theorem part?_formsOf_map_eq_ite {depth : Nat} {fields : List (String × Shape)}
    {parts : List (String × Tree)} {name : String} (m : SortedMap String)
    (hshape : fields.lookup name = some .map)
    (hlookup : parts.lookup name = if m.isEmpty then none else some (.textRecord m)) :
    Form.part? (formsOf depth fields parts) name .empty Form.textMap? =
      if m.isEmpty = true ∨ 1 ≤ depth then some m else none := by
  unfold Form.part?
  rw [lookup_formsOf hshape, hlookup]
  cases hempty : m.isEmpty with
  | true =>
    obtain ⟨entries, hascending⟩ := m
    obtain rfl : entries = [] := List.isEmpty_iff.1 hempty
    rfl
  | false =>
    cases depth with
    | zero => rfl
    | succ depth => simp [textMap?_formOf]

end Yaml

end AlertSync
