import AlertSync.Yaml.Printer
import AlertSync.Yaml.Reader

/-!
# Where a reader of YAML stands

Written text holds no carriage return, so the place behind it follows from its characters one by
one (`Mark.past`). Between tokens the reader passes line breaks and indentation (`skip_spaces`,
`skip_newline`) and stops where a token begins (`BeginsToken`). What follows a written node is such
a token further to the left, or nothing (`Outdents`).
-/

namespace AlertSync.Yaml

open Printer (spaces)

/-! ## Places -/

namespace Mark

/-- The place behind a text without carriage returns. -/
def past (m : Mark) : List Char → Mark
  | [] => m
  | c :: r => (if isBreak c then m.nextLine 1 else m.after 1).past r

@[simp]
theorem past_nil (m : Mark) : m.past [] = m := rfl

theorem past_append (m : Mark) (cs ds : List Char) : m.past (cs ++ ds) = (m.past cs).past ds := by
  induction cs generalizing m with
  | nil => rfl
  | cons c cs ih => exact ih _

@[simp]
theorem past_cons_break {c : Char} (h : isBreak c = true) (m : Mark) (r : List Char) :
    m.past (c :: r) = (m.nextLine 1).past r := by
  rw [past, if_pos h]

@[simp]
theorem past_cons_of_not_break {c : Char} (h : isBreak c = false) (m : Mark) (r : List Char) :
    m.past (c :: r) = (m.after 1).past r := by
  rw [past, if_neg (by simp [h])]

@[simp]
theorem after_after (m : Mark) (i j : Nat) : (m.after i).after j = m.after (i + j) := by
  simp [after, Nat.add_assoc]

/-- Without line breaks the place stays in its line. -/
theorem past_eq_after {cs : List Char} (h : ∀ c ∈ cs, isBreak c = false) (m : Mark) :
    m.past cs = m.after cs.length := by
  induction cs generalizing m with
  | nil => rfl
  | cons c cs ih =>
    obtain ⟨hc, hcs⟩ := List.forall_mem_cons.1 h
    rw [past_cons_of_not_break hc, ih hcs, after_after, List.length_cons, Nat.add_comm]

theorem past_spaces (m : Mark) (n : Nat) : m.past (spaces n) = m.after n := by
  have hspace : ∀ c ∈ spaces n, isBreak c = false := by
    intro c hc
    rw [List.eq_of_mem_replicate hc]
    decide
  rw [past_eq_after hspace, spaces, List.length_replicate]

/-- No text leads to an earlier line. -/
theorem line_le_past (m : Mark) (cs : List Char) : m.line ≤ (m.past cs).line := by
  induction cs generalizing m with
  | nil => exact Nat.le_refl _
  | cons c cs ih =>
    rw [past]
    split
    · exact Nat.le_trans (Nat.le_succ m.line) (ih (m.nextLine 1))
    · exact ih (m.after 1)

/-- A line break leads to a later line. -/
theorem line_lt_past (m : Mark) {c : Char} (h : isBreak c = true) (cs ds : List Char) :
    m.line < (m.past (cs ++ c :: ds)).line := by
  rw [past_append, past_cons_break h]
  exact Nat.lt_of_lt_of_le (Nat.lt_succ_of_le (line_le_past m cs))
    (line_le_past ((m.past cs).nextLine 1) ds)

/-- Behind a line break is the first column. -/
theorem column_past (m : Mark) {c : Char} (h : isBreak c = true) (cs : List Char) :
    (m.past (cs ++ [c])).column = 0 := by
  rw [past_append, past_cons_break h]
  rfl

end Mark

/-! ## Tokens -/

/-- Whether nothing, or a token of a block, begins a text: no blank or line break, and nothing that
counts only at the beginning of a line. -/
def BeginsToken : List Char → Prop
  | [] => True
  | c :: r => isBlankOrBreak c = false ∧ c ≠ '#' ∧ c ≠ '%' ∧ c ≠ '\ufeff' ∧
      isDocumentMarker (c :: r) = false

/-- A token does not begin with a blank or a line break. -/
theorem BeginsToken.head {cs : List Char} (h : BeginsToken cs) {c : Char} (hc : c ∈ cs.head?) :
    isBreak c = false ∧ c ≠ ' ' ∧ c ≠ '\t' := by
  cases cs with
  | nil => cases hc
  | cons d r =>
    obtain rfl := Option.some.inj hc
    have hblank := h.1
    simp only [isBlankOrBreak, Bool.or_eq_false_iff, beq_eq_false_iff_ne] at hblank
    exact ⟨hblank.2, hblank.1⟩

/-- Whether the dash of an item begins a text. -/
def IsItem (cs : List Char) : Prop := ∃ r, cs = '-' :: r ∧ ScalarText.endsWord r = true

/-- Whether a text, from the beginning of a line, goes on with a token up to the column `parent`, or
ends. The token in that column is the dash of an item only where `dash` says so. -/
def Outdents (parent : Int) (dash : Bool) (rest : List Char) : Prop :=
  ∃ (n : Nat) (tail : List Char), rest = spaces n ++ tail ∧ BeginsToken tail ∧
    ((n = 0 ∧ tail = []) ∨ (n : Int) < parent ∨ ((n : Int) = parent ∧ (IsItem tail → dash = true)))

/-- Further to the right a collection ends before the same token, whatever that is. -/
theorem Outdents.mono {parent column : Int} {dash dash' : Bool} {rest : List Char}
    (h : Outdents parent dash rest) (hlt : parent < column) : Outdents column dash' rest := by
  obtain ⟨n, tail, hrest, htoken, hcolumn⟩ := h
  refine ⟨n, tail, hrest, htoken, ?_⟩
  rcases hcolumn with h | h | ⟨h, -⟩
  · exact .inl h
  · exact .inr (.inl (by omega))
  · exact .inr (.inl (by omega))

/-- Any token that may stand in the column may where items may, too. -/
theorem Outdents.weaken {parent : Int} {dash : Bool} {rest : List Char}
    (h : Outdents parent dash rest) : Outdents parent true rest := by
  obtain ⟨n, tail, hrest, htoken, hcolumn⟩ := h
  exact ⟨n, tail, hrest, htoken,
    hcolumn.imp_right fun h => h.imp_right fun h => ⟨h.1, fun _ => rfl⟩⟩

/-- Whether a text goes on with a token before a column, or ends. -/
def EndsBefore (column : Int) (rest : List Char) : Prop := Outdents (column - 1) true rest

theorem Outdents.endsBefore {parent column : Int} {dash : Bool} {rest : List Char}
    (h : Outdents parent dash rest) (hlt : parent < column) : EndsBefore column rest := by
  rcases Int.lt_or_eq_of_le (Int.le_sub_one_of_lt hlt) with hlt | rfl
  · exact h.mono hlt
  · exact h.weaken

theorem EndsBefore.outdents {column : Int} {rest : List Char} (h : EndsBefore column rest)
    (dash : Bool) : Outdents column dash rest := h.mono (Int.sub_one_lt_of_le (Int.le_refl _))

theorem outdents_nil (parent : Int) (dash : Bool) : Outdents parent dash [] :=
  ⟨0, [], rfl, trivial, .inl ⟨rfl, rfl⟩⟩

/-- A token behind its indentation. -/
theorem outdents_spaces {n : Nat} {tail : List Char} {dash : Bool} (htoken : BeginsToken tail)
    (hitem : IsItem tail → dash = true) : Outdents n dash (spaces n ++ tail) :=
  ⟨n, tail, rfl, htoken, .inr (.inr ⟨rfl, hitem⟩)⟩

namespace Cursor

variable {m : Mark} {keyAllowed : Bool}

/-- Blanks between tokens are passed. -/
theorem skipFrom_spaces (flows n : Nat) (m : Mark) (keyAllowed : Bool) (r : List Char) :
    skipFrom flows false keyAllowed m (spaces n ++ r) =
      skipFrom flows false keyAllowed (m.after n) r := by
  induction n generalizing m with
  | zero => rfl
  | succ n ih =>
    show skipFrom flows false keyAllowed m (' ' :: (spaces n ++ r)) = _
    rw [skipFrom, if_neg (by decide), if_pos (by simp), ih, Mark.after_after, Nat.add_comm]
    exact fun _ h => absurd h (by decide)

/-- Behind a line break a key may begin. -/
theorem skipFrom_newline (m : Mark) (keyAllowed : Bool) (r : List Char) :
    skipFrom 0 false keyAllowed m ('\n' :: r) = skipFrom 0 false true (m.nextLine 1) r := by
  rw [skipFrom, if_pos (by decide)]
  · simp
  · exact fun _ h => absurd h (by decide)

/-- A token stays where it is. -/
theorem skipFrom_token {cs : List Char} (h : BeginsToken cs) (flows : Nat) (m : Mark)
    (keyAllowed : Bool) :
    skipFrom flows false keyAllowed m cs = ⟨cs, m, keyAllowed, flows⟩ := by
  cases cs with
  | nil => rfl
  | cons c r =>
    obtain ⟨hbreak, hspace, htab⟩ := h.head rfl
    obtain ⟨-, hcomment, -, hbom, -⟩ := h
    rw [skipFrom]
    · simp [hbreak, hspace, htab, hcomment, hbom]
    · rintro _ rfl
      exact absurd hbreak (by decide)

/-- The token behind indentation is the next. -/
theorem skip_spaces {tail : List Char} (h : BeginsToken tail) (m : Mark) (keyAllowed : Bool)
    (n : Nat) : (mk (spaces n ++ tail) m keyAllowed 0).skip = ⟨tail, m.after n, keyAllowed, 0⟩ := by
  unfold skip
  rw [skipFrom_spaces, skipFrom_token h]

/-- A line break at the cursor is passed, and allows keys. -/
theorem skip_newline (m : Mark) (keyAllowed : Bool) (r : List Char) :
    (mk ('\n' :: r) m keyAllowed 0).skip = (mk r (m.nextLine 1) true 0).skip := by
  unfold skip
  exact skipFrom_newline m keyAllowed r

/-- A token has the column at which it begins for its level. -/
theorem level_mk {c : Char} {r : List Char} (h : BeginsToken (c :: r)) (m : Mark)
    (keyAllowed : Bool) (flows : Nat) :
    (mk (c :: r) m keyAllowed flows).level = m.column := by
  obtain ⟨-, -, hdirective, -, hmarker⟩ := h
  unfold level atMarker
  simp [hdirective, hmarker]

/-- At the end of the text every collection ends. -/
theorem level_nil (m : Mark) (keyAllowed : Bool) (flows : Nat) :
    (mk [] m keyAllowed flows).level = -1 := rfl

end Cursor

end AlertSync.Yaml
