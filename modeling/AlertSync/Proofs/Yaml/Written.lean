import AlertSync.Proofs.Yaml.Inline

/-!
# Written YAML

What is true of the text of every tree, before any of it is read: it is made of characters that
stand for themselves (`all_node`), ends with a line break (`finishesWith_node`), and has enough
characters for every step that reading it takes (`cost_le_length`).
-/

namespace AlertSync.Yaml

open Printer (entries isSimpleKey items lead line opening spaces)
open ScalarText
open ofTree (ofItems ofParts)

/-! ## Lines -/

/-- A line ends with a line break. -/
theorem finishesWith_line (cs : List Char) : finishesWith isBreak (line cs) = true := by
  unfold line
  split
  · next h => exact h
  · exact finishesWith_append isBreak cs (List.cons_ne_nil '\n' [])

/-- What ends with a line break leads to the first column. -/
theorem column_past {cs : List Char} (h : finishesWith isBreak cs = true) (m : Mark) :
    (m.past cs).column = 0 := by
  have hne : cs ≠ [] := by
    rintro rfl
    cases h
  obtain ⟨r, c, rfl⟩ : ∃ r c, cs = r ++ [c] := ⟨_, _, (List.dropLast_concat_getLast hne).symm⟩
  rw [finishesWith_append _ _ (List.cons_ne_nil c [])] at h
  exact m.column_past h r

/-- An entry of a mapping, without the indentation before it. -/
def entryText (n : Nat) (name : String) (t : Tree) : List Char :=
  if isSimpleKey (.string name) then
    chars (n + 2) true name ++ ':' :: Printer.node .value n none (ofTree t)
  else
    '?' :: (Printer.node .explicit n none (.string name) ++
      spaces n ++ ':' :: Printer.node .explicit n none (ofTree t))

theorem entries_cons (n : Nat) (before : List Char) (name : String) (t : Tree)
    (r : List (String × Tree)) :
    entries n before (ofParts ((name, t) :: r)) =
      before ++ entryText n name t ++ entries n (spaces n) (ofParts r) := rfl

theorem items_cons (n : Nat) (before : List Char) (t : Tree) (r : List Tree) :
    items n before (ofItems (t :: r)) =
      before ++ '-' :: (Printer.node .item n none (ofTree t) ++ items n (spaces n) (ofItems r)) :=
  rfl

theorem finishesWith_append_of {p : Char → Bool} (cs : List Char) {ds : List Char}
    (h : finishesWith p ds = true) : finishesWith p (cs ++ ds) = true := by
  have hne : ds ≠ [] := by
    rintro rfl
    cases h
  rw [finishesWith_append p cs hne, h]

theorem finishesWith_entryText {n : Nat} {name : String} {t : Tree}
    (h : ∀ place, finishesWith isBreak (Printer.node place n none (ofTree t)) = true) :
    finishesWith isBreak (entryText n name t) = true := by
  unfold entryText
  split
  · rw [List.append_cons]
    exact finishesWith_append_of _ (h .value)
  · rw [List.append_cons, ← List.cons_append]
    exact finishesWith_append_of _ (h .explicit)

mutual

/-- What is written of a tree ends with a line break. -/
theorem finishesWith_node : ∀ (t : Tree) (place : Place) (n : Nat),
    finishesWith isBreak (Printer.node place n none (ofTree t)) = true
  | .absent, place, _ => finishesWith_append_of (lead place) (finishesWith_line _)
  | .flag _, place, _ => finishesWith_append_of (lead place) (finishesWith_line _)
  | .number _, place, _ => finishesWith_append_of (lead place) (finishesWith_line _)
  | .text _, place, _ => finishesWith_append_of (lead place) (finishesWith_line _)
  | .list [], place, _ => finishesWith_append_of (lead place) (finishesWith_line _)
  | .list (t :: r), _, _ => finishesWith_items (t :: r) _ _ nofun
  | .record [], place, _ => finishesWith_append_of (lead place) (finishesWith_line _)
  | .record (p :: r), _, _ => finishesWith_entries (p :: r) _ _ nofun

theorem finishesWith_items : ∀ (l : List Tree) (n : Nat) (before : List Char), l ≠ [] →
    finishesWith isBreak (items n before (ofItems l)) = true
  | [], _, _, h => absurd rfl h
  | [t], n, before, _ => by
    have ht := finishesWith_node t .item n
    rw [items_cons, List.append_cons]
    refine finishesWith_append_of _ ?_
    rw [show items n (spaces n) (ofItems []) = [] from rfl, List.append_nil]
    exact ht
  | t :: u :: r, n, before, _ => by
    have hr := finishesWith_items (u :: r) n (spaces n) nofun
    rw [items_cons, List.append_cons, ← List.append_assoc]
    exact finishesWith_append_of _ hr

theorem finishesWith_entries : ∀ (l : List (String × Tree)) (n : Nat) (before : List Char),
    l ≠ [] → finishesWith isBreak (entries n before (ofParts l)) = true
  | [], _, _, h => absurd rfl h
  | [(name, t)], n, before, _ => by
    rw [entries_cons, show entries n (spaces n) (ofParts []) = [] from rfl, List.append_nil]
    exact finishesWith_append_of before
      (finishesWith_entryText fun place => finishesWith_node t place n)
  | (name, t) :: p :: r, n, before, _ => by
    have hr := finishesWith_entries (p :: r) n (spaces n) nofun
    rw [entries_cons]
    exact finishesWith_append_of _ hr

end

/-- Behind an indicator stands a blank or a line break. -/
theorem endsWord_node {place : Place} (h : place ≠ .root) (n : Nat) (t : Tree) (r : List Char) :
    endsWord (Printer.node place n none (ofTree t) ++ r) = true := by
  match t with
  | .absent | .flag _ | .number _ | .text _ | .list [] | .record [] =>
    cases place <;> first | rfl | exact absurd rfl h
  | .list (_ :: _) | .record (_ :: _) =>
    cases place <;> first | rfl | exact absurd rfl h

/-! ## Characters -/

/-- What a line is made of. -/
theorem all_line {cs : List Char} (h : cs.all isPlainChar = true) :
    (line cs).all isPlainChar = true := by
  unfold line
  split
  · exact h
  · rw [List.all_append, h]
    rfl

theorem all_spaces (n : Nat) : (spaces n).all isPlainChar = true :=
  List.all_eq_true.2 fun _ hc => by
    rw [List.eq_of_mem_replicate hc]
    decide

theorem all_lead (place : Place) : (lead place).all isPlainChar = true := by
  cases place <;> decide

theorem all_opening (place : Place) (n : Nat) : (opening place none n).all isPlainChar = true := by
  cases place with
  | value => exact all_spaces n
  | root | item | explicit => rfl

/-- Between single quotes stand the characters of the text, quotes and indentation. -/
theorem all_singleBody (indent : Nat) {cs : List Char} (h : cs.all isPlainChar = true) :
    ∀ afterBreak, (singleBody indent afterBreak cs).all isPlainChar = true := by
  have hindent (b : Bool) :
      (if b then List.replicate indent ' ' else []).all isPlainChar = true := by
    cases b
    · rfl
    · exact all_spaces indent
  induction cs with
  | nil =>
    intro afterBreak
    rw [singleBody, List.all_append, hindent]
    rfl
  | cons c cs ih =>
    intro afterBreak
    rw [List.all_cons, Bool.and_eq_true] at h
    have hquoted : (if c = '\'' then ['\'', '\''] else [c]).all isPlainChar = true := by
      split
      · decide
      · simp [h.1]
    rw [singleBody]
    split
    · rw [List.all_cons, h.1, ih h.2 true]
      rfl
    · rw [List.all_append, List.all_append, hindent, hquoted, ih h.2 false]
      rfl

/-- In a literal block stand the characters of the text and indentation. -/
theorem all_literalBody (indent : Nat) {cs : List Char} (h : cs.all isPlainChar = true) :
    ∀ afterBreak, (literalBody indent afterBreak cs).all isPlainChar = true := by
  induction cs with
  | nil => exact fun _ => rfl
  | cons c cs ih =>
    intro afterBreak
    rw [List.all_cons, Bool.and_eq_true] at h
    rw [literalBody]
    split
    · rw [List.all_cons, h.1, ih h.2 true]
      rfl
    · rw [List.all_append, List.all_cons, h.1, ih h.2 false]
      cases afterBreak
      · rfl
      · exact Bool.and_eq_true_iff.2 ⟨all_spaces indent, rfl⟩

/-- Before the lines of a literal block stands at most how they are indented and end. -/
theorem all_literalBlock (indent : Nat) {cs : List Char} (h : cs.all isPlainChar = true) :
    (literalBlock indent cs).all isPlainChar = true := by
  have hhint : (if startsWith (fun c => isSpace c || isBreak c) cs then ['2'] else []).all
      isPlainChar = true := by
    split <;> decide
  have hchomping : (chomping cs).all isPlainChar = true := by
    unfold chomping
    split
    · decide
    · split <;> decide
    · split
      · split <;> decide
      · decide
  unfold literalBlock
  rw [List.all_cons, List.all_append, List.all_append, List.all_cons, hhint, hchomping,
    all_literalBody indent h]
  rfl

/-- Whatever the text, the characters by which it is written stand for themselves. -/
theorem all_chars (indent : Nat) (isKey : Bool) (s : String) :
    (chars indent isKey s).all isPlainChar = true := by
  have hplain (h : needsEscapes s.toList = false) : s.toList.all isPlainChar = true := by
    simp only [needsEscapes, Bool.or_eq_false_iff, Bool.not_eq_false'] at h
    exact h.2
  unfold chars
  dsimp only
  rcases style_cases s.toList isKey with ⟨h, hallowed, -⟩ | ⟨h, hallowed, -⟩ | h |
    ⟨h, hallowed, -⟩ <;> rw [h]
  · simp only [plainAllowed, Bool.and_eq_true, Bool.not_eq_true'] at hallowed
    exact hplain hallowed.1.1.1.1
  · simp only [singleAllowed, Bool.and_eq_true, Bool.not_eq_true'] at hallowed
    exact all_singleBody indent (hplain hallowed.1) false
  · exact List.all_eq_true.2 fun c hc => (isPlainChar_of_mem_doubleQuoted hc).1
  · simp only [literalAllowed, Bool.and_eq_true, Bool.not_eq_true'] at hallowed
    exact all_literalBlock indent (hplain hallowed.1.1)

/-- A scalar at its place. -/
theorem all_scalar (place : Place) {cs : List Char} (h : cs.all isPlainChar = true) :
    (lead place ++ line cs).all isPlainChar = true := by
  rw [List.all_append, all_lead, all_line h]
  rfl

mutual

/-- The characters by which a tree is written stand for themselves. -/
theorem all_node : ∀ (t : Tree) (place : Place) (n : Nat),
    (Printer.node place n none (ofTree t)).all isPlainChar = true
  | .absent, place, _ | .flag true, place, _ | .flag false, place, _ | .list [], place, _
  | .record [], place, _ => all_scalar place rfl
  | .number _, place, _ => all_scalar place (List.all_eq_true.2 fun _ hc =>
      (digit_means_nothing (Numeral.isDigit_of_mem_decimal hc)).1)
  | .text s, place, _ => all_scalar place (all_chars _ false s)
  | .list (t :: r), place, _ => all_items (t :: r) _ (all_opening place _)
  | .record (p :: r), place, _ => all_entries (p :: r) _ (all_opening place _)

theorem all_items : ∀ (l : List Tree) (n : Nat) {before : List Char},
    before.all isPlainChar = true → (items n before (ofItems l)).all isPlainChar = true
  | [], _, _, _ => rfl
  | t :: r, n, before, hbefore => by
    rw [items_cons, List.all_append, List.all_cons, List.all_append, hbefore, all_node t,
      all_items r n (all_spaces n)]
    rfl

theorem all_entries : ∀ (l : List (String × Tree)) (n : Nat) {before : List Char},
    before.all isPlainChar = true → (entries n before (ofParts l)).all isPlainChar = true
  | [], _, _, _ => rfl
  | (name, t) :: r, n, before, hbefore => by
    have hentry : (entryText n name t).all isPlainChar = true := by
      have hname : (Printer.node .explicit n none (.string name)).all isPlainChar = true :=
        all_scalar .explicit (all_chars _ false name)
      unfold entryText
      split
      · rw [List.all_append, List.all_cons, all_chars, all_node t]
        rfl
      · rw [List.all_cons, List.all_append, List.all_append, List.all_cons, hname, all_spaces,
          all_node t]
        rfl
    rw [entries_cons, List.all_append, List.all_append, hbefore, hentry,
      all_entries r n (all_spaces n)]
    rfl

end

/-! ## Steps -/

/-- How many steps the reader takes for what is written of a tree. -/
def cost : Tree → Nat
  | .list items => itemsCost items + 2
  | .record parts => partsCost parts + 2
  | _ => 3
where
  itemsCost : List Tree → Nat
    | [] => 1
    | t :: r => cost t + itemsCost r + 1
  partsCost : List (String × Tree) → Nat
    | [] => 1
    | (_, t) :: r => cost t + partsCost r + 4

/-- Every tree takes some steps. -/
theorem three_le_cost (t : Tree) : 3 ≤ cost t := by
  cases t with
  | absent | flag _ | number _ | text _ => exact Nat.le_refl 3
  | list l => cases l <;> simp [cost, cost.itemsCost]
  | record l =>
    cases l with
    | nil => exact Nat.le_refl 3
    | cons p l => simp [cost, cost.partsCost]

/-- What ends with a line break has a character. -/
theorem cost_le_of_three {k : Nat} {cs : List Char} (h : finishesWith isBreak cs = true)
    (hk : k ≤ 3) : k ≤ 8 * cs.length := by
  cases cs with
  | nil => cases h
  | cons c cs =>
    rw [List.length_cons]
    omega

theorem cost_le_entryText {n : Nat} (name : String) {t : Tree}
    (h : ∀ place, cost t ≤ 8 * (Printer.node place n none (ofTree t)).length) :
    cost t + 8 ≤ 8 * (entryText n name t).length := by
  have hvalue := h .value
  have hexplicit := h .explicit
  unfold entryText
  split <;> simp only [List.length_append, List.length_cons] <;> omega

mutual

/-- What is written of a tree has a character for every eight steps. -/
theorem cost_le_length : ∀ (t : Tree) (place : Place) (n : Nat),
    cost t ≤ 8 * (Printer.node place n none (ofTree t)).length
  | .absent, place, n => cost_le_of_three (finishesWith_node .absent place n) (Nat.le_refl 3)
  | .flag b, place, n => cost_le_of_three (finishesWith_node (.flag b) place n) (Nat.le_refl 3)
  | .number k, place, n => cost_le_of_three (finishesWith_node (.number k) place n) (Nat.le_refl 3)
  | .text s, place, n => cost_le_of_three (finishesWith_node (.text s) place n) (Nat.le_refl 3)
  | .list [], place, n => cost_le_of_three (finishesWith_node (.list []) place n) (Nat.le_refl 3)
  | .record [], place, n =>
    cost_le_of_three (finishesWith_node (.record []) place n) (Nat.le_refl 3)
  | .list (t :: r), _, _ => itemsCost_le_length (t :: r) _ _ nofun
  | .record (p :: r), _, _ => partsCost_le_length (p :: r) _ _ nofun

theorem itemsCost_le_length : ∀ (l : List Tree) (n : Nat) (before : List Char), l ≠ [] →
    cost.itemsCost l + 2 ≤ 8 * (items n before (ofItems l)).length
  | [], _, _, h => absurd rfl h
  | [t], n, before, _ => by
    have ht := cost_le_length t .item n
    rw [items_cons]
    simp only [cost.itemsCost, List.length_append, List.length_cons]
    omega
  | t :: u :: r, n, before, _ => by
    have ht := cost_le_length t .item n
    have hr := itemsCost_le_length (u :: r) n (spaces n) nofun
    rw [items_cons, cost.itemsCost]
    simp only [List.length_append, List.length_cons]
    omega

theorem partsCost_le_length : ∀ (l : List (String × Tree)) (n : Nat) (before : List Char),
    l ≠ [] → cost.partsCost l + 2 ≤ 8 * (entries n before (ofParts l)).length
  | [], _, _, h => absurd rfl h
  | [(name, t)], n, before, _ => by
    have ht := cost_le_entryText name fun place => cost_le_length t place n
    rw [entries_cons]
    simp only [cost.partsCost, List.length_append]
    omega
  | (name, t) :: p :: r, n, before, _ => by
    have ht := cost_le_entryText name fun place => cost_le_length t place n
    have hr := partsCost_le_length (p :: r) n (spaces n) nofun
    rw [entries_cons, cost.partsCost]
    simp only [List.length_append]
    omega

end

end AlertSync.Yaml
