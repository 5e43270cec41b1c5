import AlertSync.Proofs.Yaml.Inline
import AlertSync.Proofs.Yaml.Literal

/-!
# Steps through blocks

What the reader of a document does at a token, in terms of what it then reads: at a scalar that is
complete (`node_inline`), at a key (`node_key`, `entries_key`), at a literal block (`node_literal`), at
the dash of an item (`node_dash`, `items_dash`) and at the question mark of a long key (`node_mark`,
`entries_mark`). A collection ends before a token further to the left (`items_end`, `entries_end`).
Nothing here depends on what the tokens were written for.
-/

namespace AlertSync.Yaml

open Printer (spaces)
open ScalarText
open Reader (Handles)

variable {handles : Handles} {parent : Int} {fuel : Nat} {m : Mark} {keyAllowed : Bool}

/-! ## Scalars and keys -/

/-- The entries of a mapping from the colon behind its first key. -/
def entriesFrom (handles : Handles) (column : Int) (fuel : Nat) (key : Node String) (cur : Cursor) :
    Option (List (Node String × Node String) × Cursor) := do
  let (value, next) ← Reader.node handles column true fuel .none ((cur.drop 1 false).skip)
  let (entries, next) ← Reader.entries handles column fuel next
  some ((key, value) :: entries, next)

/-- Where a scalar begins, it is read, and is a key if a colon follows. -/
theorem node_leads {cs : List Char} (h : Leads cs) (hparent : parent < m.column) (isValue : Bool) :
    Reader.node handles parent isValue (fuel + 1) .none ⟨cs, m, keyAllowed, 0⟩ =
      (Reader.inline handles parent fuel ⟨cs, m, keyAllowed, 0⟩).bind fun (content, closed, next) =>
        if closed && Reader.atColon next && Reader.keyEnds ⟨cs, m, keyAllowed, 0⟩ next then
          (entriesFrom handles m.column fuel content next).map fun (entries, next) =>
            (.mapping .none entries, next)
        else (content.withProperties? .none).map (·, next) := by
  have hlevel := h.level m keyAllowed 0
  have hdash := h.atIndicator m keyAllowed 0 (c := '-') (by decide)
  have hmark := h.atIndicator m keyAllowed 0 (c := '?') (by decide)
  have hblock := h.atBlockScalar m keyAllowed 0
  have hproperties := h.properties? m keyAllowed 0 handles 2 .none
  have hempty : (Properties.none : Properties String).isEmpty = true := rfl
  have hmerge : (Properties.none : Properties String).merge? .none = some .none := rfl
  rw [Reader.node, hlevel, if_neg (Int.not_le.2 hparent), hdash, hmark, hblock]
  simp only [hproperties, hempty, hmerge, Bool.false_eq_true, if_false, Bool.not_true,
    Bool.false_and, if_true, Option.bind_eq_bind, Option.bind_some]
  congr 1
  funext ⟨content, closed, next⟩
  dsimp only
  split
  · unfold entriesFrom
    simp only [Option.bind_eq_bind, Option.map_bind, Function.comp_def, Option.map_some]
  · cases content.withProperties? .none <;> rfl

/-- Where a scalar begins at the column of a mapping, it is read, and has to be a key. -/
theorem entries_leads {cs : List Char} (h : Leads cs) :
    Reader.entries handles m.column (fuel + 1) ⟨cs, m, true, 0⟩ =
      (Reader.inline handles m.column fuel ⟨cs, m, true, 0⟩).bind fun (content, closed, next) =>
        if closed && Reader.atColon next && Reader.keyEnds ⟨cs, m, true, 0⟩ next then
          entriesFrom handles m.column fuel content next
        else none := by
  have hlevel := h.level m true 0
  have hmark := h.atIndicator m true 0 (c := '?') (by decide)
  have hproperties := h.properties? m true 0 handles 2 .none
  have hempty : (Properties.none : Properties String).isEmpty = true := rfl
  rw [Reader.entries, hlevel, if_neg (Int.lt_irrefl _), hmark]
  simp only [hproperties, hempty, bne_self_eq_false, Bool.or_false, Bool.not_true, Bool.false_and,
    Bool.false_eq_true, if_false, if_true, Option.bind_eq_bind, Option.bind_some]
  rfl

/-- What stands on a line is read as its node, with the line break behind it. -/
theorem node_inline {cs : List Char} {n : Node String} (h : Inline cs n)
    (hparent : parent < m.column) (isValue : Bool) {dash : Bool} {rest : List Char}
    (hrest : Outdents parent dash rest) :
    Reader.node handles parent isValue (fuel + 3) .none
        ⟨cs ++ '\n' :: rest, m, keyAllowed, 0⟩ =
      some (n, (Cursor.mk rest (m.past (cs ++ ['\n'])) true 0).skip) := by
  have hnext : (Cursor.mk ('\n' :: rest) (m.past cs) false 0).skip =
      (Cursor.mk rest (m.past (cs ++ ['\n'])) true 0).skip := by
    rw [Cursor.skip_newline, Mark.past_append]
    rfl
  -- What comes next stands on another line, so this is no key.
  have hends : Reader.keyEnds ⟨cs ++ '\n' :: rest, m, keyAllowed, 0⟩
      (Cursor.mk rest (m.past (cs ++ ['\n'])) true 0).skip = false := by
    obtain ⟨n, tail, rfl, htoken, -⟩ := hrest
    have hline : (((m.past (cs ++ ['\n'])).after n).line == m.line) = false :=
      beq_false_of_ne (Nat.ne_of_gt (m.line_lt_past (c := '\n') rfl cs []))
    rw [Cursor.skip_spaces htoken]
    unfold Reader.keyEnds
    rw [hline, Bool.and_false, Bool.false_and]
  rw [node_leads (h.leads (.inl rfl)) hparent, h.reads (Int.le_of_lt hparent) hrest.closes, hnext,
    Option.bind_some]
  dsimp only
  rw [hends, Bool.and_false, if_neg (by decide), h.bare, Option.map_some]

/-- A text that is a key: it is read as a node, and so that a colon may follow. -/
structure Key (cs : List Char) (n : Node String) : Prop extends Inline cs n where
  isBreak : ∀ c ∈ cs, isBreak c = false
  length_le : cs.length ≤ 1024

section

variable {cs : List Char} {n : Node String} (h : Key cs n) {r : List Char} (hr : endsWord r = true)

include h hr

/-- A key is read up to its colon. -/
theorem inline_key (hparent : parent ≤ m.column) :
    Reader.inline handles parent (fuel + 2) ⟨cs ++ ':' :: r, m, true, 0⟩ =
      some (n, true, ⟨':' :: r, m.past cs, false, 0⟩) := by
  have htoken : BeginsToken (':' :: r) := ⟨rfl, by decide, by decide, by decide, rfl⟩
  rw [h.reads hparent (closes_colon hr)]
  exact congrArg (fun c => some (n, true, c)) (Cursor.skip_spaces htoken (m.past cs) false 0)

/-- Behind a key its colon stands. -/
theorem colon_ends_key :
    (true && Reader.atColon ⟨':' :: r, m.past cs, false, 0⟩ &&
      Reader.keyEnds ⟨cs ++ ':' :: r, m, true, 0⟩ ⟨':' :: r, m.past cs, false, 0⟩) = true := by
  have hcolon : Reader.atColon ⟨':' :: r, m.past cs, false, 0⟩ = true := hr
  have hlength := h.length_le
  rw [hcolon, Mark.past_eq_after h.isBreak]
  simp [Reader.keyEnds, Mark.after]
  omega

/-- A key is read with its value and the entries behind it. -/
theorem entries_key :
    Reader.entries handles m.column (fuel + 3) ⟨cs ++ ':' :: r, m, true, 0⟩ =
      entriesFrom handles m.column (fuel + 2) n ⟨':' :: r, m.past cs, false, 0⟩ := by
  rw [entries_leads (h.leads (.inr rfl)), inline_key h hr (Int.le_refl _), Option.bind_some]
  exact if_pos (colon_ends_key h hr)

/-- A key by itself begins a mapping. -/
theorem node_key (hparent : parent < m.column) (isValue : Bool) :
    Reader.node handles parent isValue (fuel + 3) .none ⟨cs ++ ':' :: r, m, true, 0⟩ =
      (Reader.entries handles m.column (fuel + 3) ⟨cs ++ ':' :: r, m, true, 0⟩).map
        fun (entries, next) => (.mapping .none entries, next) := by
  rw [node_leads (h.leads (.inr rfl)) hparent, inline_key h hr (Int.le_of_lt hparent),
    Option.bind_some, entries_key h hr]
  exact if_pos (colon_ends_key h hr)

end

/-- A literal block is read as a scalar, with what stands behind it. -/
theorem node_literal {indent : Nat} (hindent : (indent : Int) = max parent 0 + 2)
    (hparent : parent < m.column) (isValue : Bool) {cs : List Char} (h : literalAllowed cs = true)
    {dash : Bool} {rest : List Char} (hrest : Outdents parent dash rest) :
    Reader.node handles parent isValue (fuel + 1) .none
        ⟨Printer.line (literalBlock indent cs) ++ rest, m, keyAllowed, 0⟩ =
      some (.scalar .none .literal cs,
        (Cursor.mk rest (m.past (Printer.line (literalBlock indent cs))) true 0).skip) := by
  obtain ⟨header, hline, hblock⟩ := block_literalBlock hindent h hrest (m.after 1)
  have htoken : BeginsToken ('|' :: (header ++ rest)) :=
    ⟨rfl, by decide, by decide, by decide, rfl⟩
  have hskip (m : Mark) : (Cursor.mk rest m true 0).skip.skip = (Cursor.mk rest m true 0).skip := by
    obtain ⟨n, tail, rfl, htoken, -⟩ := hrest
    rw [Cursor.skip_spaces htoken]
    exact Cursor.skip_spaces htoken _ _ 0
  have hread : Reader.blockScalar parent ⟨'|' :: (header ++ rest), m, keyAllowed, 0⟩ =
      some (.scalar .none .literal cs, (Cursor.mk rest ((m.after 1).past header) true 0).skip) := by
    unfold Reader.blockScalar
    show Option.bind (ScalarReader.block true parent ⟨header ++ rest, m.after 1, false, 0⟩) _ = _
    rw [hblock, Option.bind_some]
    dsimp only
    rw [hskip]
    rfl
  rw [hline, List.cons_append, Reader.node, Cursor.level_mk htoken, if_neg (Int.not_le.2 hparent),
    Mark.past_cons_of_not_break (by decide)]
  show Option.bind (Reader.blockScalar parent ⟨'|' :: (header ++ rest), m, keyAllowed, 0⟩) _ = _
  rw [hread]
  rfl

/-! ## Steps through collections -/

/-- An indicator is a token. -/
theorem beginsToken_indicator {c : Char} (hc : c ∈ ['-', '?', ':']) {r : List Char}
    (hr : endsWord r = true) : BeginsToken (c :: r) := by
  have hmarker : isDocumentMarker (c :: r) = false := by
    unfold isDocumentMarker
    split
    · next h =>
      obtain ⟨-, rfl⟩ := List.cons.inj h
      cases hr
    · next h =>
      obtain ⟨rfl, -⟩ := List.cons.inj h
      exact absurd hc (by decide)
    · rfl
  simp only [List.mem_cons, List.not_mem_nil, or_false] at hc
  rcases hc with rfl | rfl | rfl <;> exact ⟨rfl, by decide, by decide, by decide, hmarker⟩

section

variable {r : List Char} (hr : endsWord r = true)

include hr

theorem atIndicator_self (c : Char) (m : Mark) :
    (Cursor.mk (c :: r) m true 0).atIndicator c = true := by
  show (c == c && endsWord r) = true
  rw [hr, beq_self_eq_true, Bool.and_self]

/-- The dash of a sequence begins it, by itself, to the right of the collection around. -/
theorem node_dash (hparent : parent < m.column) (isValue : Bool) :
    Reader.node handles parent isValue (fuel + 1) .none ⟨'-' :: r, m, true, 0⟩ =
      (Reader.items handles m.column true fuel ⟨'-' :: r, m, true, 0⟩).map
        fun (items, next) => (.sequence .none items, next) := by
  rw [Reader.node, Cursor.level_mk (beginsToken_indicator (by decide) hr),
    if_neg (Int.not_le.2 hparent), atIndicator_self hr, if_pos rfl, if_pos rfl]
  cases Reader.items handles m.column true fuel ⟨'-' :: r, m, true, 0⟩ <;> rfl

/-- The dash of a sequence that is a value may stand in the column of the mapping. -/
theorem node_dash_value :
    Reader.node handles m.column true (fuel + 1) .none ⟨'-' :: r, m, true, 0⟩ =
      (Reader.items handles m.column false fuel ⟨'-' :: r, m, true, 0⟩).map
        fun (items, next) => (.sequence .none items, next) := by
  rw [Reader.node, Cursor.level_mk (beginsToken_indicator (by decide) hr),
    if_pos (Int.le_refl _), atIndicator_self hr, if_pos (by simp), if_pos rfl]
  cases Reader.items handles m.column false fuel ⟨'-' :: r, m, true, 0⟩ <;> rfl

/-- An item is read behind its dash, and then those behind it. -/
theorem items_dash (alone : Bool) :
    Reader.items handles m.column alone (fuel + 1) ⟨'-' :: r, m, true, 0⟩ =
      (Reader.node handles m.column false fuel .none (Cursor.mk r (m.after 1) true 0).skip).bind
        fun (item, next) => (Reader.items handles m.column alone fuel next).map
          fun (rest, next) => (item :: rest, next) := by
  rw [Reader.items, Cursor.level_mk (beginsToken_indicator (by decide) hr),
    if_neg (Int.lt_irrefl _), atIndicator_self hr, if_pos (by simp)]
  show Option.bind (Reader.node handles m.column false fuel .none
    (Cursor.mk r (m.after 1) true 0).skip) _ = _
  congr 1
  funext ⟨item, next⟩
  dsimp only
  cases Reader.items handles m.column alone fuel next <;> rfl

/-- The question mark of an entry begins a mapping by itself. -/
theorem node_mark (hparent : parent < m.column) (isValue : Bool) :
    Reader.node handles parent isValue (fuel + 1) .none ⟨'?' :: r, m, true, 0⟩ =
      (Reader.entries handles m.column fuel ⟨'?' :: r, m, true, 0⟩).map
        fun (entries, next) => (.mapping .none entries, next) := by
  have hdash : (Cursor.mk ('?' :: r) m true 0).atIndicator '-' = false := rfl
  rw [Reader.node, Cursor.level_mk (beginsToken_indicator (by decide) hr),
    if_neg (Int.not_le.2 hparent), hdash, if_neg (by decide), atIndicator_self hr, if_pos rfl,
    if_pos rfl]
  cases Reader.entries handles m.column fuel ⟨'?' :: r, m, true, 0⟩ <;> rfl

/-- Behind a question mark a key is read, and its value behind a colon in the same column. -/
theorem entries_mark {key : Node String} {m' : Mark} (hm' : m'.column = m.column)
    {r' : List Char} (hr' : endsWord r' = true)
    (hkey : Reader.node handles m.column true fuel .none (Cursor.mk r (m.after 1) true 0).skip =
      some (key, ⟨':' :: r', m', true, 0⟩)) :
    Reader.entries handles m.column (fuel + 1) ⟨'?' :: r, m, true, 0⟩ =
      (Reader.node handles m.column true fuel .none (Cursor.mk r' (m'.after 1) true 0).skip).bind
        fun (value, next) => (Reader.entries handles m.column fuel next).map
          fun (rest, next) => ((key, value) :: rest, next) := by
  rw [Reader.entries, Cursor.level_mk (beginsToken_indicator (by decide) hr),
    if_neg (Int.lt_irrefl _), if_neg (by simp), atIndicator_self hr, if_pos rfl]
  show Option.bind (Reader.node handles m.column true fuel .none
    (Cursor.mk r (m.after 1) true 0).skip) _ = _
  rw [hkey, Option.bind_some]
  dsimp only
  rw [Cursor.level_mk (beginsToken_indicator (by decide) hr'), hm', atIndicator_self hr',
    if_pos (by simp)]
  show Option.bind (Reader.node handles m.column true fuel .none
    (Cursor.mk r' (m'.after 1) true 0).skip) _ = _
  congr 1
  funext ⟨value, next⟩
  dsimp only
  cases Reader.entries handles m.column fuel next <;> rfl

end

/-- What does not begin with the dash of an item. -/
theorem atIndicator_of_not_isItem {cs : List Char} (h : ¬IsItem cs) (m : Mark) :
    (Cursor.mk cs m true 0).atIndicator '-' = false := by
  cases cs with
  | nil => rfl
  | cons c r =>
    rw [Bool.eq_false_iff]
    intro hitem
    simp only [Cursor.atIndicator, Bool.and_eq_true, beq_iff_eq] at hitem
    exact h ⟨r, by rw [hitem.1], hitem.2⟩

/-- The items of a sequence end before a token to the left, and unless they stand alone before any
token in their column that is no item. -/
theorem items_end {column : Nat} {alone : Bool} {rest : List Char} (hm : m.column = 0)
    (h : if alone then EndsBefore column rest else Outdents column false rest) :
    Reader.items handles column alone (fuel + 1) (Cursor.mk rest m true 0).skip =
      some ([], (Cursor.mk rest m true 0).skip) := by
  obtain ⟨n, tail, rfl, htoken, hcolumn⟩ : ∃ n tail, rest = spaces n ++ tail ∧ BeginsToken tail ∧
      (tail = [] ∨ n < column ∨ (n = column ∧ alone = false ∧ ¬IsItem tail)) := by
    cases alone with
    | false =>
      obtain ⟨n, tail, hrest, htoken, ⟨-, h⟩ | h | ⟨h, hitem⟩⟩ := h
      · exact ⟨n, tail, hrest, htoken, .inl h⟩
      · exact ⟨n, tail, hrest, htoken, .inr (.inl (by omega))⟩
      · exact ⟨n, tail, hrest, htoken, .inr (.inr ⟨by omega, rfl, fun h => nomatch hitem h⟩)⟩
    | true =>
      obtain ⟨n, tail, hrest, htoken, ⟨-, h⟩ | h | ⟨h, -⟩⟩ := h
      · exact ⟨n, tail, hrest, htoken, .inl h⟩
      · exact ⟨n, tail, hrest, htoken, .inr (.inl (by omega))⟩
      · exact ⟨n, tail, hrest, htoken, .inr (.inl (by omega))⟩
  have hn : (m.after n).column = n := by
    show m.column + n = n
    omega
  rw [Cursor.skip_spaces htoken]
  cases tail with
  | nil => rw [Reader.items, Cursor.level_nil, if_pos (by omega)]
  | cons c r =>
    rw [Reader.items, Cursor.level_mk htoken, hn]
    rcases hcolumn with h | h | ⟨rfl, rfl, hitem⟩
    · cases h
    · rw [if_pos (by omega)]
    · rw [if_neg (Int.lt_irrefl _), atIndicator_of_not_isItem hitem]
      simp

/-- The entries of a mapping end before a token to the left. -/
theorem entries_end {column : Nat} {rest : List Char} (hm : m.column = 0)
    (h : EndsBefore column rest) :
    Reader.entries handles column (fuel + 1) (Cursor.mk rest m true 0).skip =
      some ([], (Cursor.mk rest m true 0).skip) := by
  obtain ⟨n, tail, rfl, htoken, hcolumn⟩ := h
  rw [Cursor.skip_spaces htoken]
  cases tail with
  | nil => rw [Reader.entries, Cursor.level_nil, if_pos (by omega)]
  | cons c r =>
    have hlt : (((m.after n).column : Nat) : Int) < column := by
      show ((m.column + n : Nat) : Int) < column
      rcases hcolumn with ⟨-, h⟩ | h | ⟨h, -⟩
      · cases h
      · omega
      · omega
    rw [Reader.entries, Cursor.level_mk htoken, if_pos hlt]

end AlertSync.Yaml
