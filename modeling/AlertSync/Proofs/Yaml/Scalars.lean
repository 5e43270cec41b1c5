import AlertSync.Proofs.Yaml.Cursor
import Mathlib.Algebra.Group.Nat.Defs

/-!
# Reading back scalars

What a string is written as, in any style but that of a literal block, is read as the string. Between
double quotes each character is written by itself (`double_flatMap_escapeChar`). Between single quotes
a line break stays, and what follows it is indented (`single_singleBody`). Without quotes a string
stands on one line, and neither begins nor goes on like anything else (`plain_of_plainAllowed`).

The readers hold back the blanks and line breaks before a character until it is seen, so the
statements are about a reader that already holds some, its `Gap`.
-/

namespace AlertSync

namespace Numeral

/-- A digit in upper case counts as itself. -/
theorem hexDigit?_toUpper : ∀ d < 16, hexDigit? (Nat.digitChar d).toUpper = some d := by decide

/-- Digits of a number behind others denote it and, at its weight, what the others denote. -/
theorem foldlM_hex (n k : Nat) :
    ((hex n).map Char.toUpper).foldlM (fun n c => (hexDigit? c).map (16 * n + ·)) k =
      some (k * 16 ^ (hex n).length + n) := by
  unfold hex
  induction n using Nat.strongRecOn generalizing k with
  | _ n ih =>
    by_cases h : n < 16
    · rw [Nat.toDigits_of_lt_base h]
      simp [hexDigit?_toUpper n h, Nat.mul_comm]
    · have hdigit := hexDigit?_toUpper (n % 16) (Nat.mod_lt n (by decide))
      rw [Nat.toDigits_of_base_le (by decide) (by omega), List.map_append, List.foldlM_append,
        ih (n / 16) (by omega)]
      simp only [Option.bind_eq_bind, Option.bind_some, List.map_cons, List.map_nil,
        List.foldlM_cons, List.foldlM_nil, hdigit, Option.map_some, List.length_append,
        List.length_singleton, Nat.pow_succ]
      show some _ = some _
      congr 1
      rw [← Nat.mul_assoc k]
      omega

/-- Digits in upper case denote their number. -/
theorem ofHex?_upperHex (width n : Nat) : ofHex? (upperHex width n) = some n := by
  have hzeros (k : Nat) : (List.replicate k '0').foldlM
      (fun n c => (hexDigit? c).map (16 * n + ·)) 0 = some 0 := by
    induction k with
    | zero => rfl
    | succ k ih => exact ih
  unfold ofHex? upperHex
  rw [List.foldlM_append, hzeros]
  show ((hex n).map Char.toUpper).foldlM (fun n c => (hexDigit? c).map (16 * n + ·)) 0 = some n
  rw [foldlM_hex, Nat.zero_mul, Nat.zero_add]

/-- A number is written in as many digits as asked for, if these are enough. -/
theorem length_upperHex {width n : Nat} (hwidth : 0 < width) (h : n < 16 ^ width) :
    (upperHex width n).length = width := by
  have hle : (hex n).length ≤ width := (Nat.length_toDigits_le_iff (by decide) hwidth).2 h
  simp only [upperHex, List.length_append, List.length_replicate, List.length_map]
  omega

/-- The digits of a number in upper case. -/
theorem toUpper_of_mem_hex {n : Nat} {c : Char} (h : c ∈ hex n) :
    c.toUpper ∈ "0123456789ABCDEF".toList := by
  have hupper : ∀ d ∈ "0123456789abcdef".toList, d.toUpper ∈ "0123456789ABCDEF".toList := by
    intro d hd
    have hall : "0123456789abcdef".toList.all (fun d =>
        "0123456789ABCDEF".toList.contains d.toUpper) = true := by decide
    exact List.contains_iff_mem.1 (List.all_eq_true.1 hall d hd)
  exact hupper c (mem_hex h)

/-- The digits of a number in upper case, with zeros before them. -/
theorem mem_upperHex {width n : Nat} {c : Char} (h : c ∈ upperHex width n) :
    c ∈ "0123456789ABCDEF".toList := by
  unfold upperHex at h
  rcases List.mem_append.1 h with h | h
  · rw [List.eq_of_mem_replicate h]
    decide
  · obtain ⟨d, hd, rfl⟩ := List.mem_map.1 h
    exact toUpper_of_mem_hex hd

end Numeral

namespace Yaml

open Numeral (upperHex)
open Printer (spaces)
open ScalarText
open ScalarReader (before charOfHex? double endsPlain plain single)

/-- The number of a character denotes it. -/
theorem charOfHex?_upperHex (width : Nat) (c : Char) :
    charOfHex? (upperHex width c.toNat) = some c := by
  unfold charOfHex?
  have hvalid : c.toNat.isValidChar := c.valid
  rw [Numeral.ofHex?_upperHex, Option.bind_eq_bind, Option.bind_some, if_pos hvalid,
    Char.ofNat_toNat]

/-- Of the characters that need no escape only the space is a blank. -/
theorem isBlank_of_isPlainChar {c : Char} (h : isPlainChar c = true) (hspace : c ≠ ' ') :
    isBlank c = false := by
  have htab : c ≠ '\t' := by
    rintro rfl
    exact absurd h (by decide)
  simp [isBlank, hspace, htab]

/-- No character that needs no escape is a carriage return. -/
theorem ne_return_of_isPlainChar {c : Char} (h : isPlainChar c = true) : c ≠ '\r' := by
  rintro rfl
  exact absurd h (by decide)

/-- The escaped form of a character is read as it; a space is kept until what follows is seen. -/
theorem double_escapeChar (c : Char) (rest : List Char) (p : List Char) {m : Mark}
    (hm : m.column ≠ 0) :
    double 0 (.blanks p) m (escapeChar c ++ rest) =
      if c = ' ' then double 0 (.blanks (p ++ [' '])) (m.after 1) rest
      else before (p ++ [c]) (double 0 .none (m.after (escapeChar c).length) rest) := by
  unfold escapeChar
  split
  · next h => subst h; simp [double, ScalarReader.escape?, isBreak, Gap.text]
  split
  · next h => subst h; simp [double, ScalarReader.escape?, isBreak, Gap.text]
  split
  · -- A character that stands for itself.
    next hquote hback hplain =>
    simp only [Bool.and_eq_true, Bool.not_eq_true'] at hplain
    rw [List.singleton_append, double]
    · by_cases hspace : c = ' '
      · subst hspace
        simp [isBreak, isBlank, Gap.addBlank]
      · simp [hplain.2, isBlank_of_isPlainChar hplain.1 hspace, hspace, hm, hquote, hback, Gap.text]
    · exact fun _ h _ => ne_return_of_isPlainChar hplain.1 h
    all_goals intros; contradiction
  · split
    case h_13 hnotSpace =>
      -- Any other character is written by its number.
      have hspace : c ≠ ' ' := by
        rintro rfl
        contradiction
      rw [if_neg hspace]
      have hchar := charOfHex?_upperHex
      split
      · next hle =>
        have hlength : (upperHex 2 c.toNat).length = 2 :=
          Numeral.length_upperHex (by decide) (by omega)
        have hval := hchar 2 c
        generalize upperHex 2 c.toNat = ds at hlength hval ⊢
        match ds, hlength with
        | [_, _], _ => simp [double, hval, Gap.text]
      split
      · next hle =>
        have hlength : (upperHex 4 c.toNat).length = 4 :=
          Numeral.length_upperHex (by decide) (by omega)
        have hval := hchar 4 c
        generalize upperHex 4 c.toNat = ds at hlength hval ⊢
        match ds, hlength with
        | [_, _, _, _], _ => simp [double, hval, Gap.text]
      · have hbound : c.toNat < 0x110000 := by
          have hvalid := c.valid
          simp only [UInt32.isValidChar, Nat.isValidChar] at hvalid
          simp only [Char.toNat]
          omega
        have hlength : (upperHex 8 c.toNat).length = 8 :=
          Numeral.length_upperHex (by decide) (by omega)
        have hval := hchar 8 c
        generalize upperHex 8 c.toNat = ds at hlength hval ⊢
        match ds, hlength with
        | [_, _, _, _, _, _, _, _], _ => simp [double, hval, Gap.text]
    all_goals simp [double, ScalarReader.escape?, isBreak, Gap.text]

/-- The escaped form of a character needs no escapes itself, and holds no line break. -/
theorem isPlainChar_of_mem_escapeChar {c d : Char} (h : d ∈ escapeChar c) :
    isPlainChar d = true ∧ isBreak d = false := by
  have hdigit : ∀ d ∈ "0123456789ABCDEF".toList, isPlainChar d = true ∧ isBreak d = false := by
    have hall : ("0123456789ABCDEF".toList.all fun d => isPlainChar d && !isBreak d) = true := by
      decide
    simpa only [List.all_eq_true, Bool.and_eq_true, Bool.not_eq_true'] using hall
  have hhex (l : Char) (hl : isPlainChar l = true ∧ isBreak l = false) (width : Nat)
      (h : d ∈ '\\' :: l :: upperHex width c.toNat) : isPlainChar d = true ∧ isBreak d = false := by
    rcases List.mem_cons.1 h with rfl | h
    · decide
    rcases List.mem_cons.1 h with rfl | h
    · exact hl
    · exact hdigit d (Numeral.mem_upperHex h)
  have htwo (l : Char) (hl : isPlainChar l = true ∧ isBreak l = false) (h : d ∈ ['\\', l]) :
      isPlainChar d = true ∧ isBreak d = false := by
    rcases List.mem_cons.1 h with rfl | h
    · decide
    · rwa [List.mem_singleton.1 h]
  unfold escapeChar at h
  split at h
  · exact htwo _ (by decide) h
  split at h
  · exact htwo _ (by decide) h
  split at h
  · next hplain =>
    rw [List.mem_singleton.1 h]
    simpa using hplain
  · split at h
    case h_13 =>
      split at h
      · exact hhex 'x' (by decide) 2 h
      split at h
      · exact hhex 'u' (by decide) 4 h
      · exact hhex 'U' (by decide) 8 h
    all_goals exact htwo _ (by decide) h

/-- Escaped text up to its quote is read as the text, within the line. -/
theorem double_flatMap_escapeChar (cs p rest : List Char) {m : Mark} (hm : m.column ≠ 0) :
    double 0 (.blanks p) m (cs.flatMap escapeChar ++ '"' :: rest) =
      some (p ++ cs, ⟨rest, m.after ((cs.flatMap escapeChar).length + 1), false, 0⟩) := by
  induction cs generalizing p m with
  | nil =>
    show double 0 (.blanks p) m ('"' :: rest) = _
    simp [double, isBreak, isBlank, hm, Gap.text]
  | cons c cs ih =>
    have hcolumn (n : Nat) : (m.after n).column ≠ 0 := by
      show m.column + n ≠ 0
      omega
    rw [List.flatMap_cons, List.append_assoc, double_escapeChar c _ p hm, List.length_append]
    split
    · next hspace =>
      subst hspace
      rw [ih _ (hcolumn 1), Mark.after_after]
      have hlength : (escapeChar ' ').length = 1 := rfl
      rw [hlength, Nat.add_assoc]
      simp
    · have hnone : Gap.none = .blanks [] := rfl
      rw [hnone, ih _ (hcolumn _), Mark.after_after, Nat.add_assoc]
      simp [before]

/-- The last character of a text is that of its end. -/
theorem finishesWith_append (p : Char → Bool) (cs : List Char) {ds : List Char} (h : ds ≠ []) :
    finishesWith p (cs ++ ds) = finishesWith p ds := by
  obtain ⟨d, ds, rfl⟩ := List.exists_cons_of_ne_nil h
  unfold finishesWith
  rw [List.getLast?_append, List.getLast?_cons, Option.some_or]

/-! ## Between single quotes -/

/-- Whether a pair stands in a text is seen at its head and behind that. -/
theorem hasPair_cons (p q : Char → Bool) (c : Char) (cs : List Char) :
    hasPair p q (c :: cs) = (p c && startsWith q cs || hasPair p q cs) := by
  cases cs with
  | nil => simp [hasPair, startsWith]
  | cons d cs => simp [hasPair, startsWith]

/-- What may stand between single quotes, character by character. -/
theorem singleAllowed_cons {c : Char} {cs : List Char} (h : singleAllowed (c :: cs) = true) :
    isPlainChar c = true ∧ (c = ' ' → startsWith isBreak cs = false) ∧
      (isBreak c = true → startsWith isSpace cs = false) ∧ singleAllowed cs = true := by
  unfold singleAllowed needsEscapes at h ⊢
  rw [hasPair_cons, hasPair_cons, List.all_cons] at h
  simp only [Bool.and_eq_true, Bool.not_eq_true', Bool.or_eq_false_iff, Bool.not_eq_false'] at h ⊢
  obtain ⟨⟨⟨hspace, hpair⟩, hchar, hall⟩, hbreak, hpair'⟩ := h
  refine ⟨hchar, ?_, ?_, ⟨hpair, hall⟩, hpair'⟩
  · rintro rfl
    exact hspace
  · intro h
    simpa [h] using hbreak

/-- The gap at a place within single quotes, before the given text: nothing of it gets lost. Spaces
stand before no line break, and line breaks, which are no line feeds, before no space. -/
def Gap.Keeps (g : Gap) (m : Mark) (cs : List Char) : Prop :=
  match g with
  | .blanks p => m.column ≠ 0 ∧ (p ≠ [] → startsWith isBreak cs = false)
  | .lines first _ => first ≠ ['\n'] ∧ startsWith isSpace cs = false

/-- The indentation of a line within single quotes does not count. -/
theorem single_spaces (first more : List Char) (n : Nat) (m : Mark) (r : List Char) :
    single 0 (.lines first more) m (spaces n ++ r) =
      single 0 (.lines first more) (m.after n) r := by
  induction n generalizing m with
  | zero => rfl
  | succ n ih =>
    show single 0 (.lines first more) m (' ' :: (spaces n ++ r)) = _
    rw [single, if_neg (by decide), if_pos (by decide)]
    · show single 0 (.lines first more) (m.after 1) (spaces n ++ r) = _
      rw [ih, Mark.after_after, Nat.add_comm]
    · exact fun _ h => absurd h (by decide)
    · exact fun _ h => absurd h (by decide)

/-- The text of a gap with a separator of lines behind it. -/
theorem Gap.text_addBreak {g : Gap} {m : Mark} {c : Char} {cs : List Char}
    (h : g.Keeps m (c :: cs)) (hc : isBreak c = true) (hfeed : c ≠ '\n') :
    (g.addBreak [c]).text = g.text ++ [c] := by
  cases g with
  | blanks p =>
    cases p with
    | nil => simp [addBreak, text, hfeed]
    | cons d p => exact absurd (h.2 nofun) (by simp [startsWith, hc])
  | lines first more => simp [addBreak, text, h.1]

/-- A gap with a separator of lines behind it loses nothing, unless a space follows. -/
theorem Gap.Keeps.addBreak {g : Gap} {m m' : Mark} {c : Char} {cs : List Char}
    (h : g.Keeps m (c :: cs)) (hfeed : c ≠ '\n') (hcs : startsWith isSpace cs = false) :
    (g.addBreak [c]).Keeps m' cs := by
  cases g with
  | blanks p => exact ⟨by simpa using hfeed, hcs⟩
  | lines first more => exact ⟨h.1, hcs⟩

/-- What stands for a character other than a line break, between single quotes. -/
def singleChar (c : Char) : List Char := if c = '\'' then ['\'', '\''] else [c]

/-- A character other than a blank or line break is read behind the gap before it. -/
theorem single_singleChar {c : Char} (hbreak : isBreak c = false) (hblank : isBlank c = false)
    {m : Mark} (hm : m.column ≠ 0) (g : Gap) {r : List Char} :
    single 0 g m (singleChar c ++ r) =
      before (g.text ++ [c]) (single 0 .none (m.past (singleChar c)) r) := by
  unfold singleChar
  split
  · next h =>
    subst h
    simp [single, isBreak]
  · next h =>
    show single 0 g m (c :: r) = _
    rw [single]
    · simp [hbreak, hblank, hm, h]
    · rintro _ rfl
      exact absurd hbreak (by decide)
    · exact fun _ h' => absurd h' h

/-- Of the line breaks only the separators of lines and paragraphs stay as they are. -/
theorem breakText_of_isPlainChar {c : Char} (hbreak : isBreak c = true)
    (hplain : isPlainChar c = true) : breakText c = [c] := by
  unfold breakText
  split
  · rfl
  · next hseparator =>
    simp only [isBreak, Bool.or_eq_true, beq_iff_eq] at hbreak
    rcases hbreak with (((rfl | rfl) | rfl) | h) | h
    · rfl
    · exact absurd hplain (by decide)
    · exact absurd hplain (by decide)
    · exact absurd (.inl h) hseparator
    · exact absurd (.inr h) hseparator

/-- A single quote that no other follows ends the text. -/
theorem single_close {rest : List Char} (hrest : rest.head? ≠ some '\'') {m : Mark}
    (hm : m.column ≠ 0) (g : Gap) :
    single 0 g m ('\'' :: rest) = some (g.text, ⟨rest, m.after 1, false, 0⟩) := by
  rw [single]
  · simp [isBreak, isBlank, hm]
  · exact fun _ h => absurd h (by decide)
  · rintro _ - rfl
    exact hrest rfl

/-- A character other than a blank or line break is read behind the gap before it, in front of a text
that is read. -/
theorem single_word {c : Char} (hbreak : isBreak c = false) (hblank : isBlank c = false)
    {body cs rest : List Char}
    (hread : ∀ m : Mark, m.column ≠ 0 →
      single 0 .none m (body ++ rest) = some (cs, ⟨rest, m.past body, false, 0⟩))
    {m : Mark} (hm : m.column ≠ 0) (g : Gap) :
    single 0 g m (singleChar c ++ body ++ rest) =
      some (g.text ++ c :: cs, ⟨rest, m.past (singleChar c ++ body), false, 0⟩) := by
  have hcolumn : (m.past (singleChar c)).column ≠ 0 := by
    unfold singleChar
    split
    · show m.column + 1 + 1 ≠ 0
      omega
    · rw [Mark.past_cons_of_not_break hbreak]
      show m.column + 1 ≠ 0
      omega
  rw [List.append_assoc, single_singleChar hbreak hblank hm, Mark.past_append,
    hread _ hcolumn]
  simp [before]

/-- What is written between single quotes is read as the text, with what stood in the gap before
it. -/
theorem single_singleBody {indent : Nat} (hindent : 0 < indent) {rest : List Char}
    (hrest : rest.head? ≠ some '\'') {cs : List Char} (hcs : singleAllowed cs = true)
    (hfeed : '\n' ∉ cs) {g : Gap} {m : Mark} (hg : g.Keeps m cs) :
    single 0 g m (singleBody indent g.isLines cs ++ rest) =
      some (g.text ++ cs, ⟨rest, m.past (singleBody indent g.isLines cs), false, 0⟩) := by
  -- Behind a line break, what is written begins with the indentation.
  have hlines (m : Mark) (first more r : List Char) :
      single 0 (.lines first more) m (spaces indent ++ r) =
        single 0 (.lines first more) (m.past (spaces indent)) r := by
    rw [single_spaces, Mark.past_spaces]
  have hcolumn (m : Mark) : (m.past (spaces indent)).column ≠ 0 := by
    rw [Mark.past_spaces]
    show m.column + indent ≠ 0
    omega
  induction cs generalizing g m with
  | nil =>
    cases g with
    | blanks p =>
      show single 0 (.blanks p) m ('\'' :: rest) = _
      rw [single_close hrest hg.1]
      simp [singleBody, Gap.isLines, Mark.past, isBreak]
    | lines first more =>
      show single 0 (.lines first more) m ((spaces indent ++ ['\'']) ++ rest) = _
      rw [List.append_assoc, hlines, List.singleton_append, single_close hrest (hcolumn m)]
      show some (_, _) = some (_, Cursor.mk _ (m.past (spaces indent ++ ['\''])) _ _)
      rw [Mark.past_append, List.append_nil]
      rfl
  | cons c cs ih =>
    obtain ⟨hplain, hspace, hnotSpace, hallowed⟩ := singleAllowed_cons hcs
    obtain ⟨hc, hnone⟩ : c ≠ '\n' ∧ '\n' ∉ cs := by
      simpa [eq_comm] using hfeed
    by_cases hbreak : isBreak c = true
    · have hbody (b : Bool) : singleBody indent b (c :: cs) = c :: singleBody indent true cs := by
        rw [singleBody, if_pos hbreak]
      have hopen : (g.addBreak [c]).isLines = true := by cases g <;> rfl
      have ih' := ih hallowed hnone (hg.addBreak hc (hnotSpace hbreak)) (m := m.nextLine 1)
      rw [hopen, Gap.text_addBreak hg hbreak hc] at ih'
      rw [hbody, List.cons_append, single, if_pos hbreak, breakText_of_isPlainChar hbreak hplain,
        ih', Mark.past_cons_break hbreak, List.append_assoc]
      · rfl
      · exact fun _ h => absurd h (ne_return_of_isPlainChar hplain)
      · rintro _ rfl
        exact absurd hbreak (by decide)
    · rw [Bool.not_eq_true] at hbreak
      -- A character other than a space is read with the gap before it.
      have hword (hc : c ≠ ' ') {m : Mark} (hm : m.column ≠ 0) (g : Gap) :=
        single_word hbreak (isBlank_of_isPlainChar hplain hc)
          (fun m hm => ih hallowed hnone (g := .none) (m := m) ⟨hm, fun h => absurd rfl h⟩) hm g
      cases g with
      | blanks p =>
        have hbody : singleBody indent false (c :: cs) =
            singleChar c ++ singleBody indent false cs := by
          rw [singleBody, if_neg (by simp [hbreak])]
          rfl
        show single 0 (.blanks p) m (singleBody indent false (c :: cs) ++ rest) =
          some (p ++ c :: cs, ⟨rest, m.past (singleBody indent false (c :: cs)), false, 0⟩)
        rw [hbody]
        by_cases hc : c = ' '
        · subst hc
          have hkeeps : Gap.Keeps (.blanks (p ++ [' '])) (m.after 1) cs :=
            ⟨Nat.succ_ne_zero _, fun _ => hspace rfl⟩
          show single 0 (.blanks p) m (' ' :: (singleBody indent false cs ++ rest)) =
            some (p ++ ' ' :: cs, ⟨rest, m.past (' ' :: singleBody indent false cs), false, 0⟩)
          rw [single, if_neg (by decide), if_pos (by decide),
            Mark.past_cons_of_not_break (by decide)]
          · refine (ih hallowed hnone hkeeps).trans ?_
            simp [Gap.text, Gap.isLines]
          · exact fun _ h => absurd h (by decide)
          · exact fun _ h => absurd h (by decide)
        · exact hword hc hg.1 (.blanks p)
      | lines first more =>
        have hc : c ≠ ' ' := by
          rintro rfl
          exact absurd hg.2 (by simp [startsWith, isSpace])
        have hbody : singleBody indent true (c :: cs) =
            spaces indent ++ (singleChar c ++ singleBody indent false cs) := by
          rw [singleBody, if_neg (by simp [hbreak])]
          exact List.append_assoc _ _ _
        show single 0 (.lines first more) m (singleBody indent true (c :: cs) ++ rest) =
          some (_, ⟨rest, m.past (singleBody indent true (c :: cs)), false, 0⟩)
        rw [hbody, List.append_assoc, hlines, Mark.past_append m]
        exact hword hc (hcolumn m) (.lines first more)

/-! ## Without quotes -/

/-- What is read before a text that is read is in front of it. -/
theorem before_before (p q : List Char) (f : ScalarReader.Found) :
    before p (before q f) = before (p ++ q) f := by
  cases f <;> simp [before]

/-- Before a text that begins no word ends nothing but that text. -/
theorem endsWord_append {cs : List Char} (h : endsWord cs = false) (rest : List Char) :
    endsWord (cs ++ rest) = false := by
  cases cs with
  | nil => cases h
  | cons c cs => exact h

/-- Within a plain scalar, characters are read as they are. The spaces before a character are kept
until it is seen. -/
theorem plain_append {indent : Int} {rest : List Char} {cs : List Char} (k : Nat) (last : Char)
    (m : Mark) (hlast : k ≠ 0 → last = ' ' ∧ indent ≤ m.column ∧ m.column ≠ 0)
    (hindent : indent ≤ m.column + 1) (hbody : bodyIndicates last cs = false)
    (hplain : ∀ c ∈ cs, isPlainChar c = true ∧ isBreak c = false)
    (hend : finishesWith isSpace (spaces k ++ cs) = false) :
    plain 0 indent (.blanks (spaces k)) m (cs ++ rest) =
      before (spaces k ++ cs) (plain 0 indent .none (m.after cs.length) rest) := by
  have hpush (k : Nat) : spaces (k + 1) = spaces k ++ [' '] := List.replicate_succ'
  induction cs generalizing k last m with
  | nil =>
    cases k with
    | zero =>
      show plain 0 indent .none m rest = before [] (plain 0 indent .none m rest)
      cases plain 0 indent .none m rest <;> rfl
    | succ k =>
      -- The text does not end in a space.
      rw [List.append_nil, hpush] at hend
      simp [finishesWith, isSpace] at hend
  | cons c cs ih =>
    obtain ⟨⟨hchar, hbreak⟩, hcs⟩ := List.forall_mem_cons.1 hplain
    rw [bodyIndicates, Bool.or_eq_false_iff, Bool.or_eq_false_iff] at hbody
    obtain ⟨⟨hcolon, hcomment⟩, hbody⟩ := hbody
    have hnext : indent ≤ ((m.after 1).column : Int) := by
      show indent ≤ ((m.column + 1 : Nat) : Int)
      omega
    have hlength : (m.after 1).after cs.length = m.after (c :: cs).length := by
      rw [Mark.after_after, Nat.add_comm, List.length_cons]
    rw [List.cons_append, plain]
    · by_cases hspace : c = ' '
      · subst hspace
        have ih' := ih (k + 1) ' ' (m.after 1) (fun _ => ⟨rfl, hnext, Nat.succ_ne_zero _⟩)
          (by omega) hbody hcs (by rw [hpush, List.append_assoc]; exact hend)
        rw [hpush, List.append_assoc, hlength] at ih'
        simpa [isBreak, isBlank, Gap.addBlank] using ih'
      · have hblank := isBlank_of_isPlainChar hchar hspace
        have hstop : ((Gap.blanks (spaces k)).isOpen && (decide (m.column < indent) || c == '#' ||
            (m.column == 0 && isDocumentMarker (c :: (cs ++ rest))))) = false := by
          cases k with
          | zero => rfl
          | succ k =>
            obtain ⟨rfl, hcolumn, hzero⟩ := hlast (Nat.succ_ne_zero k)
            have hnot : c ≠ '#' := by
              rintro rfl
              cases hcomment
            simp [hnot, hzero, hcolumn]
        have hends : endsPlain false c (cs ++ rest) = false := by
          unfold endsPlain
          by_cases hc : c = ':'
          · subst hc
            rw [endsWord_append (by simpa using hcolon)]
            rfl
          · simp [hc]
        have hend' : finishesWith isSpace (spaces 0 ++ cs) = false := by
          cases cs with
          | nil => rfl
          | cons d cs =>
            rwa [List.append_cons, finishesWith_append _ _ (List.cons_ne_nil d cs)] at hend
        have ih' := ih 0 c (m.after 1) (fun h => absurd rfl h) (by omega) hbody hcs hend'
        rw [hlength] at ih'
        have hstray : ScalarReader.isStrayColon false c (cs ++ rest) = false := rfl
        simp only [hbreak, hblank, bne_self_eq_false, Bool.not_false, Bool.true_and, hstop, hstray,
          hends, Bool.false_eq_true, if_false]
        exact (congrArg (before _) ih').trans (by simp [before_before, Gap.text, spaces])
    · rintro _ rfl
      exact absurd hbreak (by decide)

/-- Behind a plain scalar the line breaks, and what goes on to the left ends it. -/
theorem plain_newline {n : Nat} {tail : List Char} {indent : Int} (htoken : BeginsToken tail)
    (hcolumn : tail ≠ [] → (n : Int) < indent) (m : Mark) :
    plain 0 indent .none m ('\n' :: (spaces n ++ tail)) =
      some ([], ⟨tail, (m.nextLine 1).after n, true, 0⟩) := by
  have hspaces (n : Nat) (m : Mark) : plain 0 indent (.lines ['\n'] []) m (spaces n ++ tail) =
      plain 0 indent (.lines ['\n'] []) (m.after n) tail := by
    induction n generalizing m with
    | zero => rfl
    | succ n ih =>
      show plain 0 indent (.lines ['\n'] []) m (' ' :: (spaces n ++ tail)) = _
      rw [plain]
      · simp only [isBreak, isBlank]
        refine Eq.trans ?_ ((ih (m.after 1)).trans ?_)
        · simp [Gap.addBlank]
        · rw [Mark.after_after, Nat.add_comm]
      · exact fun _ h => absurd h (by decide)
  have hstart : plain 0 indent .none m ('\n' :: (spaces n ++ tail)) =
      plain 0 indent (.lines ['\n'] []) (m.nextLine 1) (spaces n ++ tail) := by
    rw [plain, if_pos (by decide)]
    · rfl
    · exact fun _ h => absurd h (by decide)
  rw [hstart, hspaces]
  cases tail with
  | nil => rfl
  | cons c r =>
    obtain ⟨hblank, -, -, -, -⟩ := htoken
    simp only [isBlankOrBreak, Bool.or_eq_false_iff] at hblank
    have hlt : ((((m.nextLine 1).after n).column : Nat) : Int) < indent := by
      show ((0 + n : Nat) : Int) < indent
      have := hcolumn (List.cons_ne_nil c r)
      omega
    rw [plain]
    · simp [hblank, isBlank, Gap.isOpen, hlt, Gap.isLines]
    · rintro _ rfl
      exact absurd hblank.2 (by decide)

/-- Behind a plain scalar a colon before a blank or a line break ends it. -/
theorem plain_colon {r : List Char} (h : endsWord r = true) (indent : Int) (m : Mark) :
    plain 0 indent .none m (':' :: r) = some ([], ⟨':' :: r, m, false, 0⟩) := by
  rw [plain]
  · simp [isBreak, isBlank, Gap.none, Gap.isOpen, Gap.isLines, ScalarReader.isStrayColon, endsPlain,
      h]
  · exact fun _ h => absurd h (by decide)

/-- What is written without quotes is read as it is, up to whatever ends it. -/
theorem plain_of_plainAllowed {cs : List Char} (h : plainAllowed cs = true) {indent : Int}
    {m : Mark} (hindent : indent ≤ m.column + 1) (rest : List Char) :
    plain 0 indent .none m (cs ++ rest) =
      before cs (plain 0 indent .none (m.after cs.length) rest) := by
  unfold plainAllowed needsEscapes isMultiline indicates at h
  simp only [Bool.and_eq_true, Bool.not_eq_true', Bool.or_eq_false_iff, Bool.not_eq_false',
    List.all_eq_true, List.any_eq_false, Bool.not_eq_true] at h
  obtain ⟨⟨⟨⟨⟨-, hchars⟩, hbreaks⟩, hhead, hbody⟩, -⟩, hend⟩ := h
  -- The first character is no indicator, so it may be taken for one in the middle of a word.
  have hbody' : bodyIndicates 'x' cs = false := by
    cases cs with
    | nil => rfl
    | cons c r =>
      simp only [headIndicates, Bool.or_eq_false_iff] at hhead
      obtain ⟨⟨⟨hindicator, hword⟩, -⟩, -⟩ := hhead
      have hcolon : (c == ':' && endsWord r) = false := by
        by_cases hc : c = ':'
        · simpa [hc] using hword
        · simp [hc]
      have hword' : isBlankOrBreak 'x' = false := by decide
      rw [bodyIndicates, hcolon, hword', Bool.and_false]
      exact hbody
  exact plain_append 0 'x' m (fun h => absurd rfl h) hindent hbody'
    (fun c hc => ⟨hchars c hc, hbreaks c hc⟩) hend

end Yaml

end AlertSync
