import AlertSync.Proofs.Yaml.Scalars

/-!
# Reading back what stands on a line

What is written on one line, or between quotes, is read as one node, at any column: scalars in each
style but that of a literal block, and empty collections (`Inline`). It begins like nothing that
belongs to a block (`Leads`), and is complete before a line break that ends the collection around, and
before the colon of a key (`Closes`). `inline_chars` is the case of strings, and `key_chars` says that
what stands before a colon is short enough for a key.
-/

namespace AlertSync.Yaml

open Printer (spaces)
open ScalarText

/-- Whether a text begins with a scalar or a flow collection, which has no properties and is no
literal block. -/
def Leads (cs : List Char) : Prop :=
  ∃ c r, cs = c :: r ∧ BeginsToken cs ∧ c ∉ ['&', '!', '|', '>'] ∧
    (c ∈ ['-', '?', ':'] → endsWord r = false)

namespace Leads

variable {cs : List Char} (h : Leads cs)

include h

theorem beginsToken : BeginsToken cs := by
  obtain ⟨_, _, -, htoken, -⟩ := h
  exact htoken

/-- A scalar is no item of a sequence. -/
theorem not_isItem : ¬IsItem cs := by
  obtain ⟨c, r, rfl, -, -, hword⟩ := h
  rintro ⟨r', hr', hitem⟩
  obtain ⟨rfl, rfl⟩ := List.cons.inj hr'
  rw [hword (by decide)] at hitem
  cases hitem

variable (m : Mark) (keyAllowed : Bool) (flows : Nat)

/-- Where a scalar begins is its column. -/
theorem level : (Cursor.mk cs m keyAllowed flows).level = m.column := by
  obtain ⟨c, r, rfl, htoken, -⟩ := h
  exact Cursor.level_mk htoken m keyAllowed flows

/-- Where a scalar begins there is no indicator of a block collection. -/
theorem atIndicator {c : Char} (hc : c ∈ ['-', '?', ':']) :
    (Cursor.mk cs m keyAllowed flows).atIndicator c = false := by
  obtain ⟨d, r, rfl, -, -, hword⟩ := h
  show (d == c && endsWord r) = false
  by_cases hdc : d = c
  · subst hdc
    rw [hword hc, Bool.and_false]
  · simp [hdc]

/-- Where a scalar begins on a line there is no literal block. -/
theorem atBlockScalar : Reader.atBlockScalar (Cursor.mk cs m keyAllowed flows) = false := by
  obtain ⟨d, r, rfl, -, hnot, -⟩ := h
  simp only [List.mem_cons, not_or] at hnot
  simp [Reader.atBlockScalar, Cursor.atChar, hnot]

/-- Where a scalar begins there are no properties. -/
theorem properties? (handles : Reader.Handles) (fuel : Nat) (p : Properties String) :
    Reader.properties? handles false (fuel + 1) p (Cursor.mk cs m keyAllowed flows) =
      some (p, Cursor.mk cs m keyAllowed flows) := by
  obtain ⟨d, r, rfl, -, hnot, -⟩ := h
  simp only [List.mem_cons, not_or] at hnot
  simp [Reader.properties?, Cursor.atChar, hnot]

end Leads

/-- What may stand behind a scalar that stands on a line: a line break, or a colon behind a key. No
plain scalar in a collection at the column `parent` goes on there. -/
structure Closes (parent : Int) (rest : List Char) : Prop where
  head : rest.head? = some '\n' ∨ rest.head? = some ':'
  plain : ∀ m, ∃ next, ScalarReader.plain 0 (parent + 1) .none m rest = some ([], next) ∧
    next.skip = (Cursor.mk rest m false 0).skip

/-- A line break closes a scalar, if what follows stands further to the left. -/
theorem Outdents.closes {parent : Int} {dash : Bool} {rest : List Char}
    (h : Outdents parent dash rest) : Closes parent ('\n' :: rest) where
  head := .inl rfl
  plain m := by
    obtain ⟨n, tail, rfl, htoken, hcolumn⟩ := h
    have hlt : tail ≠ [] → (n : Int) < parent + 1 := by
      intro hne
      rcases hcolumn with ⟨-, h⟩ | h | ⟨h, -⟩
      · exact absurd h hne
      · omega
      · omega
    refine ⟨_, plain_newline htoken hlt m, ?_⟩
    rw [Cursor.skip_newline, Cursor.skip_spaces htoken]
    exact Cursor.skip_spaces htoken _ _ 0

/-- A colon closes a key. -/
theorem closes_colon {parent : Int} {r : List Char} (h : endsWord r = true) :
    Closes parent (':' :: r) where
  head := .inr rfl
  plain m := ⟨_, plain_colon h (parent + 1) m, rfl⟩

/-- What stands on a line is read as a node, and ends where it is closed. -/
structure Inline (cs : List Char) (n : Node String) : Prop where
  leads : ∀ {rest}, rest.head? = some '\n' ∨ rest.head? = some ':' → Leads (cs ++ rest)
  line : Printer.line cs = cs ++ ['\n']
  bare : n.withProperties? .none = some n
  reads : ∀ {handles : Reader.Handles} {parent : Int} {fuel : Nat} {m : Mark} {keyAllowed : Bool}
    {rest : List Char}, parent ≤ m.column → Closes parent rest →
      Reader.inline handles parent (fuel + 2) ⟨cs ++ rest, m, keyAllowed, 0⟩ =
        some (n, true, (Cursor.mk rest (m.past cs) false 0).skip)

/-- What ends with no line break gets one. -/
theorem line_append {c : Char} (hc : isBreak c = false) (cs : List Char) :
    Printer.line (cs ++ [c]) = cs ++ [c] ++ ['\n'] := by
  unfold Printer.line
  rw [List.getLast?_append, List.getLast?_singleton, Option.some_or]
  exact if_neg (by simpa using hc)

/-! ## Without quotes -/

/-- No marker between documents begins a text on a line, if none begins the text itself. -/
theorem isDocumentMarker_append {cs rest : List Char}
    (hdash : ['-', '-', '-'].isPrefixOf cs = false)
    (hdot : ['.', '.', '.'].isPrefixOf cs = false)
    (hrest : rest.head? = some '\n' ∨ rest.head? = some ':') :
    isDocumentMarker (cs ++ rest) = false := by
  unfold isDocumentMarker
  have hbegins {c : Char} (hc : c = '-' ∨ c = '.') {r : List Char}
      (h : cs ++ rest = c :: c :: c :: r) : [c, c, c].isPrefixOf cs = true := by
    have hne : rest.head? ≠ some c := by
      rcases hrest with h' | h' <;> rcases hc with rfl | rfl <;> rw [h'] <;> decide
    have hhead {r : List Char} (h : rest = c :: r) : False := hne (h ▸ rfl)
    match cs, h with
    | [], h => exact (hhead h).elim
    | [a], h => exact (hhead (List.cons.inj h).2).elim
    | [a, b], h => exact (hhead (List.cons.inj (List.cons.inj h).2).2).elim
    | a :: b :: d :: cs, h =>
      simp only [List.cons_append, List.cons.injEq] at h
      obtain ⟨rfl, rfl, rfl, -⟩ := h
      simp
  split
  · next r h =>
    rw [hbegins (.inl rfl) h] at hdash
    cases hdash
  · next r h =>
    rw [hbegins (.inr rfl) h] at hdot
    cases hdot
  · rfl

/-- The first character of a text that may stand without quotes. -/
theorem plainAllowed_cons {c : Char} {r : List Char} (h : plainAllowed (c :: r) = true) :
    isBlankOrBreak c = false ∧ isPlainChar c = true ∧ isIndicator c = false ∧
      (c ∈ ['-', '?', ':'] → endsWord r = false) ∧
      ['-', '-', '-'].isPrefixOf (c :: r) = false ∧
      ['.', '.', '.'].isPrefixOf (c :: r) = false := by
  unfold plainAllowed needsEscapes isMultiline indicates headIndicates startsWith at h
  simp only [Bool.and_eq_true, Bool.not_eq_true', Bool.or_eq_false_iff, Bool.not_eq_false',
    List.all_cons, List.any_cons, List.head?_cons, Option.any_some] at h
  obtain ⟨⟨⟨⟨⟨-, hplain, -⟩, hbreak, -⟩, ⟨⟨⟨hindicator, hword⟩, hdash⟩, hdot⟩, -⟩, hspace⟩, -⟩ := h
  have htab : c ≠ '\t' := by
    rintro rfl
    exact absurd hplain (by decide)
  refine ⟨?_, hplain, hindicator, ?_, hdash, hdot⟩
  · unfold isSpace at hspace
    simp [isBlankOrBreak, hspace, htab, hbreak]
  · intro hc
    simp only [List.mem_cons, List.not_mem_nil, or_false] at hc
    rcases hc with rfl | rfl | rfl <;> simpa using hword

/-- What may stand without quotes begins a scalar. -/
theorem leads_plain {cs rest : List Char} (h : plainAllowed cs = true) (hne : cs ≠ [])
    (hrest : rest.head? = some '\n' ∨ rest.head? = some ':') : Leads (cs ++ rest) := by
  obtain ⟨c, r, rfl⟩ := List.exists_cons_of_ne_nil hne
  obtain ⟨hblank, hplain, hindicator, hword, hdash, hdot⟩ := plainAllowed_cons h
  have hnot {d : Char} (hd : isIndicator d = true ∨ isPlainChar d = false) : c ≠ d := by
    rintro rfl
    rcases hd with hd | hd
    · rw [hindicator] at hd
      cases hd
    · rw [hplain] at hd
      cases hd
  refine ⟨c, r ++ rest, rfl, ⟨hblank, hnot (.inl rfl), hnot (.inl rfl), hnot (.inr (by decide)),
    isDocumentMarker_append hdash hdot hrest⟩, ?_, ?_⟩
  · simp only [List.mem_cons, List.not_mem_nil, or_false, not_or]
    exact ⟨hnot (.inl rfl), hnot (.inl rfl), hnot (.inl rfl), hnot (.inl rfl)⟩
  · exact fun hc => endsWord_append (hword hc) rest

/-- A text that may stand without quotes is read as a plain scalar. -/
theorem inline_plain {cs : List Char} (h : plainAllowed cs = true) (hne : cs ≠ []) :
    Inline cs (.scalar .none .plain cs) where
  leads := leads_plain h hne
  line := by
    obtain ⟨r, c, rfl⟩ : ∃ r c, cs = r ++ [c] := ⟨_, _, (List.dropLast_concat_getLast hne).symm⟩
    unfold plainAllowed isMultiline at h
    simp at h
    exact line_append (by simp [h]) r
  bare := rfl
  reads {handles parent fuel m keyAllowed rest} hcolumn hrest := by
    obtain ⟨next, hplain, hnext⟩ := hrest.plain (m.after cs.length)
    have hread : ScalarReader.plain 0 (parent + 1) .none m (cs ++ rest) = some (cs, next) := by
      rw [plain_of_plainAllowed h (by omega), hplain]
      simp [ScalarReader.before]
    have hmark : m.past cs = m.after cs.length := by
      refine Mark.past_eq_after (fun d hd => ?_) m
      unfold plainAllowed isMultiline at h
      simp only [Bool.and_eq_true, Bool.not_eq_true', List.any_eq_false, Bool.not_eq_true] at h
      exact h.1.1.1.2 d hd
    obtain ⟨c, r, rfl⟩ := List.exists_cons_of_ne_nil hne
    obtain ⟨hblank, -, hindicator, hword, -⟩ := plainAllowed_cons h
    have hnot {d : Char} (hd : isIndicator d = true) : c ≠ d := by
      rintro rfl
      rw [hindicator] at hd
      cases hd
    have hword' (hc : c ∈ ['-', '?', ':']) : endsWord (r ++ rest) = false :=
      endsWord_append (hword hc) rest
    have hstarts : ScalarReader.startsPlain false (c :: (r ++ rest)) = true := by
      unfold ScalarReader.startsPlain
      simp only [hblank, hindicator]
      by_cases hdash : c = '-'
      · simp [hdash, hword' (by simp [hdash])]
      by_cases hkey : c = '?' ∨ c = ':'
      · rcases hkey with rfl | rfl <;> simp [hword']
      · simp [hdash, not_or.1 hkey]
    rw [hmark, ← hnext, List.cons_append, Reader.inline]
    -- The first character is none that begins another kind of scalar.
    split
    case h_6 =>
      show (if ScalarReader.startsPlain false (c :: (r ++ rest)) = true then _ else _) = _
      rw [if_pos hstarts]
      show Option.bind (ScalarReader.plain 0 (parent + 1) .none m (c :: r ++ rest)) _ = _
      rw [hread]
      rfl
    all_goals
      next heq => exact absurd (List.cons.inj heq).1 (hnot rfl)

/-! ## Words and digits -/

/-- The words for what is absent and for truth values are plain scalars. -/
theorem inline_word {cs : List Char} (h : cs = "null".toList ∨ cs = "true".toList ∨
    cs = "false".toList) : Inline cs (.scalar .none .plain cs) := by
  rcases h with rfl | rfl | rfl <;> exact inline_plain (by decide) (by decide)

/-- A digit is no character that means something to a reader. -/
theorem digit_means_nothing {c : Char} (h : c.isDigit = true) :
    isPlainChar c = true ∧ isBlankOrBreak c = false ∧ isIndicator c = false ∧
      c ∉ ['?', ':', '-', '.', '#'] := by
  have hdigits : ∀ k < 10, isPlainChar (Char.ofNat (48 + k)) = true ∧
      isBlankOrBreak (Char.ofNat (48 + k)) = false ∧ isIndicator (Char.ofNat (48 + k)) = false ∧
      Char.ofNat (48 + k) ∉ ['?', ':', '-', '.', '#'] := by decide
  have hrange : 48 ≤ c.toNat ∧ c.toNat ≤ 57 := by
    simpa [Char.isDigit, UInt32.le_iff_toNat_le] using h
  have hc : Char.ofNat (48 + (c.toNat - 48)) = c := by
    rw [Nat.add_sub_cancel' hrange.1, Char.ofNat_toNat]
  have hclass := hdigits (c.toNat - 48) (by omega)
  rwa [hc] at hclass

theorem bodyIndicates_of_digits {cs : List Char} (h : ∀ c ∈ cs, c.isDigit = true) (before : Char) :
    bodyIndicates before cs = false := by
  induction cs generalizing before with
  | nil => rfl
  | cons c cs ih =>
    obtain ⟨-, -, -, hc⟩ := digit_means_nothing (h c List.mem_cons_self)
    have hrest := ih (fun d hd => h d (List.mem_cons_of_mem c hd)) c
    simp only [List.mem_cons, not_or] at hc
    simp [bodyIndicates, hrest, hc]

theorem hasPair_eq_false {p q : Char → Bool} {cs : List Char} (h : ∀ c ∈ cs, p c = false) :
    hasPair p q cs = false := by
  induction cs with
  | nil => rfl
  | cons c cs ih =>
    rw [hasPair_cons, h c List.mem_cons_self, ih fun d hd => h d (List.mem_cons_of_mem c hd)]
    rfl

/-- Digits may stand without quotes. -/
theorem plainAllowed_of_digits {cs : List Char} (h : ∀ c ∈ cs, c.isDigit = true) :
    plainAllowed cs = true := by
  have hblank : ∀ c ∈ cs, isSpace c = false ∧ isBreak c = false := by
    intro c hc
    obtain ⟨-, hblank, -⟩ := digit_means_nothing (h c hc)
    simp only [isBlankOrBreak, Bool.or_eq_false_iff] at hblank
    exact ⟨hblank.1.1, hblank.2⟩
  have hescapes : needsEscapes cs = false := by
    unfold needsEscapes
    rw [hasPair_eq_false fun c hc => (hblank c hc).1,
      List.all_eq_true.2 fun c hc => (digit_means_nothing (h c hc)).1]
    rfl
  have hlines : isMultiline cs = false :=
    List.any_eq_false.2 fun c hc => Bool.eq_false_iff.1 (hblank c hc).2
  have hindicates : indicates cs = false := by
    cases cs with
    | nil => rfl
    | cons c cs =>
      obtain ⟨-, -, hindicator, hc⟩ := digit_means_nothing (h c List.mem_cons_self)
      have hbody := bodyIndicates_of_digits (fun d hd => h d (List.mem_cons_of_mem c hd)) c
      simp only [List.mem_cons, not_or] at hc
      simp [indicates, headIndicates, List.isPrefixOf, hindicator, hbody, hc, Ne.symm hc.2.2.1,
        Ne.symm hc.2.2.2.1]
  have hends (o : Option Char) (ho : ∀ c ∈ o, c ∈ cs) : o.any isSpace = false := by
    cases o with
    | none => rfl
    | some c => exact (hblank c (ho c rfl)).1
  unfold plainAllowed startsWith finishesWith
  rw [hescapes, hlines, hindicates, hends _ fun c hc => List.mem_of_head? hc,
    hends _ fun c hc => List.mem_of_getLast? hc]
  rfl

/-- Digits are a plain scalar. -/
theorem inline_decimal (n : Nat) :
    Inline (Numeral.decimal n) (.scalar .none .plain (Numeral.decimal n)) :=
  inline_plain (plainAllowed_of_digits fun _ hc => Numeral.isDigit_of_mem_decimal hc)
    Nat.toDigits_ne_nil

/-! ## Between quotes -/

/-- What stands between quotes begins a scalar. -/
theorem leads_quote {c : Char} (hc : c = '"' ∨ c = '\'' ∨ c = '[' ∨ c = '\x7b') (r : List Char) :
    Leads (c :: r) := by
  refine ⟨c, r, rfl, ?_, ?_, ?_⟩
  · rcases hc with rfl | rfl | rfl | rfl <;> exact ⟨rfl, by decide, by decide, by decide, rfl⟩
  · rcases hc with rfl | rfl | rfl | rfl <;> decide
  · intro h
    rcases hc with rfl | rfl | rfl | rfl <;> exact absurd h (by decide)

/-- What stands between double quotes, and the quotes, needs no escapes and holds no line break. -/
theorem isPlainChar_of_mem_doubleQuoted {cs : List Char} {d : Char} (h : d ∈ doubleQuoted cs) :
    isPlainChar d = true ∧ isBreak d = false := by
  simp only [doubleQuoted, List.mem_cons, List.mem_append, List.mem_flatMap, List.not_mem_nil,
    or_false] at h
  rcases h with rfl | ⟨c, -, h⟩ | rfl
  · decide
  · exact isPlainChar_of_mem_escapeChar h
  · decide

/-- A text between double quotes is read as a quoted scalar. -/
theorem inline_double (cs : List Char) :
    Inline (doubleQuoted cs) (.scalar .none .quoted cs) where
  leads {rest} _ := leads_quote (.inl rfl) _
  line := line_append (by decide) ('"' :: cs.flatMap escapeChar)
  bare := rfl
  reads {handles parent fuel m keyAllowed rest} _ _ := by
    have hbreaks : ∀ d ∈ doubleQuoted cs, isBreak d = false := fun d hd =>
      (isPlainChar_of_mem_doubleQuoted hd).2
    have hread := double_flatMap_escapeChar cs [] rest (m := m.after 1) (Nat.succ_ne_zero _)
    have hlength : (doubleQuoted cs).length = 1 + ((cs.flatMap escapeChar).length + 1) := by
      simp [doubleQuoted, Nat.add_comm]
    show Reader.inline handles parent (fuel + 2)
      ⟨'"' :: (cs.flatMap escapeChar ++ ['"'] ++ rest), m, keyAllowed, 0⟩ = _
    rw [Reader.inline, List.append_assoc, Mark.past_eq_after hbreaks, hlength]
    show Option.bind (ScalarReader.double 0 (.blanks []) (m.after 1) _) _ = _
    rw [List.singleton_append, hread, Mark.after_after]
    rfl

/-- Text between single quotes ends with the quote. -/
theorem exists_singleBody (indent : Nat) (afterBreak : Bool) (cs : List Char) :
    ∃ body, singleBody indent afterBreak cs = body ++ ['\''] := by
  induction cs generalizing afterBreak with
  | nil => exact ⟨_, rfl⟩
  | cons c cs ih =>
    rw [singleBody]
    split
    · obtain ⟨body, hbody⟩ := ih true
      exact ⟨c :: body, congrArg (c :: ·) hbody⟩
    · obtain ⟨body, hbody⟩ := ih false
      rw [hbody, ← List.append_assoc]
      exact ⟨_, rfl⟩

/-- A text between single quotes is read as a quoted scalar. -/
theorem inline_single {indent : Nat} (hindent : 0 < indent) {cs : List Char}
    (h : singleAllowed cs = true) (hfeed : '\n' ∉ cs) :
    Inline (singleQuoted indent cs) (.scalar .none .quoted cs) where
  leads {rest} _ := leads_quote (.inr (.inl rfl)) _
  line := by
    obtain ⟨body, hbody⟩ := exists_singleBody indent false cs
    unfold singleQuoted
    rw [hbody]
    exact line_append (by decide) ('\'' :: body)
  bare := rfl
  reads {handles parent fuel m keyAllowed rest} _ hrest := by
    have hquote : rest.head? ≠ some '\'' := by
      rcases hrest.head with h | h <;> rw [h] <;> decide
    have hread : ScalarReader.single 0 .none (m.after 1) (singleBody indent false cs ++ rest) =
        some (cs, ⟨rest, (m.after 1).past (singleBody indent false cs), false, 0⟩) :=
      single_singleBody hindent hquote h hfeed (g := .none)
          ⟨Nat.succ_ne_zero _, fun h => nomatch h rfl⟩
    show Reader.inline handles parent (fuel + 2)
      ⟨'\'' :: (singleBody indent false cs ++ rest), m, keyAllowed, 0⟩ = _
    rw [Reader.inline, singleQuoted, Mark.past_cons_of_not_break (by decide)]
    show Option.bind (ScalarReader.single 0 .none (m.after 1) _) _ = _
    rw [hread]
    rfl

/-! ## Empty collections -/

/-- A closing bracket or brace is a token. -/
theorem beginsToken_close {c : Char} (hc : c = ']' ∨ c = '\x7d') (r : List Char) :
    BeginsToken (c :: r) := by
  rcases hc with rfl | rfl <;> exact ⟨rfl, by decide, by decide, by decide, rfl⟩

/-- Empty brackets are read as a sequence without items. -/
theorem inline_brackets : Inline ['[', ']'] (.sequence .none []) where
  leads {rest} _ := leads_quote (.inr (.inr (.inl rfl))) _
  line := rfl
  bare := rfl
  reads {handles parent fuel m keyAllowed rest} _ _ := by
    show Reader.inline handles parent (fuel + 2) ⟨'[' :: ']' :: rest, m, keyAllowed, 0⟩ = _
    have hskip : (Cursor.mk (']' :: rest) (m.after 1) true 1).skip =
        ⟨']' :: rest, m.after 1, true, 1⟩ :=
      Cursor.skipFrom_token (beginsToken_close (.inl rfl) rest) 1 _ _
    rw [Reader.inline]
    show Option.bind (Reader.flowItems handles parent (fuel + 1) true
      (Cursor.mk (']' :: rest) (m.after 1) true 1).skip) _ = _
    rw [hskip, Reader.flowItems]
    rfl

/-- Empty braces are read as a mapping without entries. -/
theorem inline_braces : Inline ['\x7b', '\x7d'] (.mapping .none []) where
  leads {rest} _ := leads_quote (.inr (.inr (.inr rfl))) _
  line := rfl
  bare := rfl
  reads {handles parent fuel m keyAllowed rest} _ _ := by
    show Reader.inline handles parent (fuel + 2) ⟨'\x7b' :: '\x7d' :: rest, m, keyAllowed, 0⟩ = _
    have hskip : (Cursor.mk ('\x7d' :: rest) (m.after 1) true 1).skip =
        ⟨'\x7d' :: rest, m.after 1, true, 1⟩ :=
      Cursor.skipFrom_token (beginsToken_close (.inr rfl) rest) 1 _ _
    rw [Reader.inline]
    show Option.bind (Reader.flowEntries handles parent (fuel + 1) true
      (Cursor.mk ('\x7d' :: rest) (m.after 1) true 1).skip) _ = _
    rw [hskip, Reader.flowEntries]
    rfl

/-! ## Strings -/

/-- How a string counts as written. -/
def written (cs : List Char) (isKey : Bool) : Written :=
  match style cs isKey with
  | .plain => .plain
  | .literal => .literal
  | .single | .double => .quoted

/-- What the style of a string says about it. -/
theorem style_cases (cs : List Char) (isKey : Bool) :
    (style cs isKey = .plain ∧ plainAllowed cs = true ∧ Plain.of cs = .text) ∨
      (style cs isKey = .single ∧ singleAllowed cs = true ∧ '\n' ∉ cs) ∨
      style cs isKey = .double ∨
      (style cs isKey = .literal ∧ literalAllowed cs = true ∧ isKey = false) := by
  unfold style isAmbiguous
  dsimp only
  split
  · split
    · next h =>
      simp only [Bool.and_eq_true, Bool.not_eq_true'] at h
      exact .inr (.inr (.inr ⟨rfl, h⟩))
    · exact .inr (.inr (.inl rfl))
  next hfeed =>
  have hquoted : ∀ t, (if singleAllowed cs && !(isKey && isMultiline cs) then Style.single
      else .double) = t → (t = .single ∧ singleAllowed cs = true ∧ '\n' ∉ cs) ∨ t = .double := by
    rintro t rfl
    split
    · next h =>
      simp only [Bool.and_eq_true] at h
      exact .inl ⟨rfl, h.1, by simpa using hfeed⟩
    · exact .inr rfl
  split
  · exact .inr ((hquoted _ rfl).imp_right .inl)
  · split
    · next hambiguous h =>
      simp only [Bool.and_eq_true] at h
      simp only [Bool.or_eq_true, bne_iff_ne, not_or, Decidable.not_not] at hambiguous
      exact .inl ⟨rfl, h.1, hambiguous.1⟩
    · exact .inr ((hquoted _ rfl).imp_right .inl)

/-- A string that is no literal block is read as itself. -/
theorem inline_chars {indent : Nat} (hindent : 0 < indent) {s : String} {isKey : Bool}
    (h : style s.toList isKey ≠ .literal) :
    Inline (chars indent isKey s) (.scalar .none (written s.toList isKey) s.toList) := by
  unfold chars written
  dsimp only
  rcases style_cases s.toList isKey with ⟨hs, hplain, hof⟩ | ⟨hs, hsingle, hfeed⟩ | hs | ⟨hs, -⟩
  · rw [hs]
    have hne : s.toList ≠ [] := by
      intro hnil
      rw [hnil] at hof
      cases hof
    exact inline_plain hplain hne
  · rw [hs]
    exact inline_single hindent hsingle hfeed
  · rw [hs]
    exact inline_double s.toList
  · exact absurd hs h

/-! ## Keys -/

/-- Between single quotes the characters of a line stand one by one. -/
theorem singleBody_of_line (indent : Nat) {cs : List Char} (h : ∀ c ∈ cs, isBreak c = false) :
    singleBody indent false cs = cs.flatMap singleChar ++ ['\''] := by
  induction cs with
  | nil => rfl
  | cons c cs ih =>
    obtain ⟨hc, hcs⟩ := List.forall_mem_cons.1 h
    rw [singleBody, if_neg (by simp [hc]), ih hcs, List.flatMap_cons]
    show singleChar c ++ (cs.flatMap singleChar ++ ['\'']) = _
    rw [List.append_assoc]

/-- The escaped form of a character is at most four times as long as its bytes. -/
theorem length_escapeChar_le (c : Char) : (escapeChar c).length ≤ 4 * c.utf8Size := by
  have hpos := c.utf8Size_pos
  have hnot {n : UInt32} (h : n.toNat < c.toNat) : ¬c.val ≤ n := by
    rw [UInt32.le_iff_toNat_le]
    exact Nat.not_le.2 h
  have htwo (h : 0x7f < c.toNat) : 2 ≤ c.utf8Size := by
    unfold Char.utf8Size
    dsimp only
    split
    · next hle => exact absurd hle (hnot h)
    · split
      · exact Nat.le_refl 2
      · split <;> decide
  have hfour (h : 0xffff < c.toNat) : c.utf8Size = 4 := by
    unfold Char.utf8Size
    dsimp only
    split
    · next hle => exact absurd hle (hnot (Nat.lt_trans (by decide) h))
    split
    · next hle => exact absurd hle (hnot (Nat.lt_trans (by decide) h))
    split
    · next hle => exact absurd hle (hnot h)
    · rfl
  have hbound : c.toNat < 0x110000 := by
    have hvalid := c.valid
    simp only [UInt32.isValidChar, Nat.isValidChar] at hvalid
    simp only [Char.toNat]
    omega
  have hhex (width : Nat) (hwidth : 0 < width) (h : c.toNat < 16 ^ width) (d e : Char) :
      (d :: e :: Numeral.upperHex width c.toNat).length = width + 2 := by
    rw [List.length_cons, List.length_cons, Numeral.length_upperHex hwidth h]
  unfold escapeChar
  split
  · exact Nat.le_trans (by decide) (Nat.mul_le_mul_left 4 hpos)
  split
  · exact Nat.le_trans (by decide) (Nat.mul_le_mul_left 4 hpos)
  split
  · exact Nat.le_trans (by simp) (Nat.mul_le_mul_left 4 hpos)
  · split
    case h_13 =>
      split
      · rw [hhex 2 (by decide) (by omega)]
        omega
      split
      · rw [hhex 4 (by decide) (by omega)]
        have := htwo (by omega)
        omega
      · rw [hhex 8 (by decide) (by omega), hfour (by omega)]
        omega
    all_goals exact Nat.le_trans (by decide) (Nat.mul_le_mul_left 4 hpos)

/-- A text in which each character takes at most four times the space of its bytes. -/
theorem length_flatMap_le {f : Char → List Char} (hf : ∀ c, (f c).length ≤ 4 * c.utf8Size)
    (s : String) : (s.toList.flatMap f).length ≤ 4 * s.utf8ByteSize := by
  have hlist (cs : List Char) : (cs.flatMap f).length ≤ 4 * (String.ofList cs).utf8ByteSize := by
    induction cs with
    | nil => exact Nat.zero_le _
    | cons c cs ih =>
      have hc := hf c
      have hcons : String.ofList (c :: cs) = String.singleton c ++ String.ofList cs := by
        rw [← String.toList_inj]
        simp
      rw [List.flatMap_cons, List.length_append, hcons, String.utf8ByteSize_append,
        String.utf8ByteSize_singleton]
      omega
  have hs := hlist s.toList
  rwa [String.ofList_toList] at hs

/-- A key that stands before its colon stands on one line, and is not too long for the reader. -/
theorem key_chars {s : String} (h : Printer.isSimpleKey (.string s) = true) (indent : Nat) :
    (∀ c ∈ chars indent true s, isBreak c = false) ∧ (chars indent true s).length ≤ 1024 ∧
      style s.toList true ≠ .literal := by
  unfold Printer.isSimpleKey Printer.keyLength? isMultiline at h
  split at h
  · cases h
  next hlines =>
  have hsize : s.utf8ByteSize ≤ 128 := by simpa using h
  have hline : ∀ c ∈ s.toList, isBreak c = false := by simpa using hlines
  have hone (c : Char) : 1 ≤ c.utf8Size := c.utf8Size_pos
  unfold chars
  dsimp only
  rcases style_cases s.toList true with ⟨hs, -⟩ | ⟨hs, -⟩ | hs | ⟨-, -, hs⟩
  · have hlength := length_flatMap_le (f := fun c => [c])
      (fun c => Nat.le_trans (hone c) (by omega)) s
    rw [List.flatMap_singleton'] at hlength
    rw [hs]
    exact ⟨hline, Nat.le_trans hlength (by omega), nofun⟩
  · have hlength := length_flatMap_le (f := singleChar) (by
      intro c
      have := hone c
      unfold singleChar
      split <;> simp <;> omega) s
    rw [hs]
    refine ⟨?_, ?_, nofun⟩
    · show ∀ c ∈ '\'' :: singleBody indent false s.toList, isBreak c = false
      rw [singleBody_of_line indent hline]
      intro d hd
      simp only [List.mem_cons, List.mem_append, List.mem_flatMap, List.not_mem_nil,
        or_false] at hd
      rcases hd with rfl | ⟨c, hc, hd⟩ | rfl
      · decide
      · unfold singleChar at hd
        split at hd
        · simp only [List.mem_cons, List.not_mem_nil, or_self, or_false] at hd
          subst hd
          decide
        · rw [List.mem_singleton.1 hd]
          exact hline c hc
      · decide
    · show ('\'' :: singleBody indent false s.toList).length ≤ 1024
      rw [singleBody_of_line indent hline]
      simp only [List.length_cons, List.length_append, List.length_nil]
      omega
  · have hlength := length_flatMap_le length_escapeChar_le s
    rw [hs]
    refine ⟨?_, ?_, nofun⟩
    · exact fun d hd => (isPlainChar_of_mem_doubleQuoted hd).2
    · show ('"' :: (s.toList.flatMap escapeChar ++ ['"'])).length ≤ 1024
      simp only [List.length_cons, List.length_append, List.length_nil]
      omega
  · cases hs

end AlertSync.Yaml
