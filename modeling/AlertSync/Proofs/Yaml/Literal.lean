import AlertSync.Proofs.Yaml.Scalars

/-!
# Reading back literal blocks

A literal block is read as the string that it was written for (`block_literalBlock`). Its body is
read line by line, and with each line the empty lines behind it: `blockLines_further` for a line
before another, `blockLines_last` for the last, and from these the whole body by induction on its
length (`blockLines_literalBody`). The head of the block says how many of the breaks at the end count
(`exists_chomping`), and how the lines are indented where the first of them would hide it.
-/

namespace AlertSync.Yaml

open Printer (spaces)
open ScalarText
open ScalarReader

/-! ## Between the lines -/

/-- Whether a text consists of line breaks that a scalar may hold. -/
def AreBreaks (bs : List Char) : Prop := ∀ c ∈ bs, isBreak c = true ∧ isPlainChar c = true

/-- Breaks end with a break. -/
theorem AreBreaks.finishesWith {b : Char} {bs : List Char} (h : AreBreaks (b :: bs)) :
    ScalarText.finishesWith isBreak (b :: bs) = true := by
  obtain ⟨c, hc⟩ : ∃ c, (b :: bs).getLast? = some c := by simp [List.getLast?_cons]
  unfold ScalarText.finishesWith
  rw [hc]
  exact (h c (List.mem_of_getLast? hc)).1

/-- Empty lines are read as their line breaks. -/
theorem blockBreaks_breaks {bs : List Char} (h : AreBreaks bs) (known : Option Nat) (widest : Nat)
    (breaks : List Char) (m : Mark) (r : List Char) :
    ∃ widest', blockBreaks known widest breaks m (bs ++ r) =
      blockBreaks known widest' (breaks ++ bs) (m.past bs) r := by
  induction bs generalizing widest breaks m with
  | nil => exact ⟨widest, by simp⟩
  | cons c bs ih =>
    obtain ⟨⟨hbreak, hplain⟩, hbs⟩ := List.forall_mem_cons.1 h
    obtain ⟨widest', ih⟩ := ih hbs (max widest m.column) (breaks ++ [c]) (m.nextLine 1)
    refine ⟨widest', ?_⟩
    have hspace : c ≠ ' ' := by
      rintro rfl
      exact absurd hbreak (by decide)
    have htab : c ≠ '\t' := by
      rintro rfl
      exact absurd hbreak (by decide)
    rw [List.cons_append, blockBreaks]
    · simpa [hspace, htab, hbreak, breakText_of_isPlainChar hbreak hplain] using ih
    · exact fun _ h => absurd h (ne_return_of_isPlainChar hplain)

/-- Indentation is passed, if it is known up to there. -/
theorem blockBreaks_spaces {known : Option Nat} {n : Nat} {m : Mark}
    (h : ∀ indent ∈ known, m.column + n ≤ indent) (widest : Nat) (breaks r : List Char) :
    blockBreaks known widest breaks m (spaces n ++ r) =
      blockBreaks known widest breaks (m.after n) r := by
  induction n generalizing m with
  | zero => rfl
  | succ n ih =>
    have hindenting : (known.all fun n => decide (m.column < n)) = true := by
      rw [Option.all_eq_true]
      intro indent hindent
      have := h indent hindent
      simp
      omega
    have ih' := ih (m := m.after 1) (by
      intro indent hindent
      have := h indent hindent
      show m.column + 1 + n ≤ indent
      omega)
    show blockBreaks known widest breaks m (' ' :: (spaces n ++ r)) = _
    rw [blockBreaks]
    · simp only [hindenting]
      rw [if_pos (by decide), ih', Mark.after_after, Nat.add_comm]
    · exact fun _ h => absurd h (by decide)

/-- The empty lines end where a line begins: behind the indentation, or at a character that is none
of it. -/
theorem blockBreaks_stop {known : Option Nat} {m : Mark} {r : List Char}
    (h : ∀ c ∈ r.head?, isBreak c = false ∧
      ((c ≠ ' ' ∧ c ≠ '\t') ∨ ∃ indent ∈ known, indent ≤ m.column))
    (widest : Nat) (breaks : List Char) :
    blockBreaks known widest breaks m r = some (breaks, max widest m.column, ⟨r, m, true, 0⟩) := by
  cases r with
  | nil => rfl
  | cons c r =>
    obtain ⟨hbreak, hcolumn⟩ := h c rfl
    rw [blockBreaks]
    · rcases hcolumn with ⟨hspace, htab⟩ | ⟨indent, hindent, hle⟩
      · simp [hspace, htab, hbreak]
      · obtain rfl := hindent
        simp [Nat.not_lt.2 hle, hbreak]
    · rintro _ rfl
      exact absurd hbreak (by decide)

/-- Behind breaks is the first column. -/
theorem AreBreaks.column_past {bs : List Char} (h : AreBreaks bs) {m : Mark} (hm : m.column = 0) :
    (m.past bs).column = 0 := by
  induction bs generalizing m with
  | nil => exact hm
  | cons c bs ih =>
    obtain ⟨⟨hbreak, -⟩, hbs⟩ := List.forall_mem_cons.1 h
    rw [Mark.past_cons_break hbreak]
    exact ih hbs rfl

/-- Empty lines are read up to the token behind them, which stands where lines begin or further to
the left. -/
theorem blockBreaks_reach {indent n : Nat} (hn : n ≤ indent) {bs : List Char} (hbs : AreBreaks bs)
    {r : List Char} (hr : ∀ c ∈ r.head?, isBreak c = false ∧ (n < indent → c ≠ ' ' ∧ c ≠ '\t'))
    {m : Mark} (hm : m.column = 0) (widest : Nat) :
    ∃ widest', blockBreaks (some indent) widest [] m (bs ++ (spaces n ++ r)) =
      some (bs, widest', ⟨r, m.past (bs ++ spaces n), true, 0⟩) := by
  obtain ⟨widest', hbreaks⟩ := blockBreaks_breaks hbs (some indent) widest [] m (spaces n ++ r)
  have hcolumn := hbs.column_past hm
  refine ⟨max widest' ((m.past bs).after n).column, ?_⟩
  have hspaces : ∀ i ∈ some indent, (m.past bs).column + n ≤ i := by
    rintro i ⟨⟩
    omega
  rw [hbreaks, blockBreaks_spaces hspaces, blockBreaks_stop, Mark.past_append, Mark.past_spaces,
    List.nil_append]
  intro c hc
  obtain ⟨hbreak, hblank⟩ := hr c hc
  refine ⟨hbreak, ?_⟩
  rcases Nat.lt_or_eq_of_le hn with hlt | rfl
  · exact .inl (hblank hlt)
  · refine .inr ⟨n, rfl, ?_⟩
    show n ≤ (m.past bs).column + n
    omega

/-! ## Lines -/

/-- The rest of a line up to its break. -/
theorem restOfLine_append {l : List Char} (h : ∀ c ∈ l, isBreak c = false) {b : Char}
    (hbreak : isBreak b = true) (hplain : isPlainChar b = true) (m : Mark) (r : List Char) :
    restOfLine m (l ++ b :: r) = (l, [b], ⟨r, (m.past (l ++ [b])), true, 0⟩) := by
  induction l generalizing m with
  | nil =>
    show restOfLine m (b :: r) = _
    rw [restOfLine, if_pos hbreak, breakText_of_isPlainChar hbreak hplain]
    · simp [hbreak]
    · exact fun _ h => absurd h (ne_return_of_isPlainChar hplain)
  | cons c l ih =>
    obtain ⟨hc, hl⟩ := List.forall_mem_cons.1 h
    rw [List.cons_append, restOfLine, if_neg (by simp [hc]), ih hl, List.cons_append,
      Mark.past_cons_of_not_break hc]
    rintro _ rfl
    exact absurd hc (by decide)

/-- Line breaks at the beginning of a line are not indented. -/
theorem literalBody_breaks (indent : Nat) {bs : List Char} (h : AreBreaks bs) (r : List Char) :
    literalBody indent true (bs ++ r) = bs ++ literalBody indent true r := by
  induction bs with
  | nil => rfl
  | cons c bs ih =>
    obtain ⟨⟨hbreak, -⟩, hbs⟩ := List.forall_mem_cons.1 h
    rw [List.cons_append, literalBody, if_pos hbreak, ih hbs, List.cons_append]

theorem literalBody_areBreaks (indent : Nat) {bs : List Char} (h : AreBreaks bs) :
    literalBody indent true bs = bs := by
  rw [← List.append_nil bs, literalBody_breaks indent h]
  rfl

/-- Within a line the characters stand as they are. -/
theorem literalBody_line (indent : Nat) {l : List Char} (h : ∀ c ∈ l, isBreak c = false)
    (r : List Char) : literalBody indent false (l ++ r) = l ++ literalBody indent false r := by
  induction l with
  | nil => rfl
  | cons c l ih =>
    obtain ⟨hc, hl⟩ := List.forall_mem_cons.1 h
    rw [List.cons_append, literalBody, if_neg (by simp [hc]), ih hl]
    rfl

/-- A line begins behind its indentation. -/
theorem literalBody_indent (indent : Nat) {c : Char} (h : isBreak c = false) (r : List Char) :
    literalBody indent true (c :: r) = spaces indent ++ literalBody indent false (c :: r) := by
  simp [literalBody, h, spaces]

/-- A text that begins with a line is that line and what begins with its break. -/
theorem exists_line {c : Char} (hc : isBreak c = false) (cs : List Char) :
    ∃ l r, c :: cs = c :: l ++ r ∧ (∀ d ∈ c :: l, isBreak d = false) ∧
      ∀ b ∈ r.head?, isBreak b = true := by
  induction cs generalizing c with
  | nil => exact ⟨[], [], rfl, by simpa using hc, nofun⟩
  | cons d cs ih =>
    by_cases hd : isBreak d = true
    · exact ⟨[], d :: cs, rfl, by simpa using hc, by simpa using hd⟩
    · rw [Bool.not_eq_true] at hd
      obtain ⟨l, r, hcs, hl, hr⟩ := ih hd
      exact ⟨d :: l, r, congrArg (c :: ·) hcs, List.forall_mem_cons.2 ⟨hc, hl⟩, hr⟩

/-- A text is the line breaks at its beginning and what begins with no break. -/
theorem exists_breaks {cs : List Char} (h : ∀ c ∈ cs, isPlainChar c = true) :
    ∃ bs r, cs = bs ++ r ∧ AreBreaks bs ∧ startsWith isBreak r = false := by
  induction cs with
  | nil => exact ⟨[], [], rfl, nofun, rfl⟩
  | cons c cs ih =>
    obtain ⟨hc, hcs⟩ := List.forall_mem_cons.1 h
    by_cases hbreak : isBreak c = true
    · obtain ⟨bs, r, rfl, hbs, hr⟩ := ih hcs
      exact ⟨c :: bs, r, rfl, List.forall_mem_cons.2 ⟨⟨hbreak, hc⟩, hbs⟩, hr⟩
    · exact ⟨[], c :: cs, rfl, nofun, by simpa [startsWith] using hbreak⟩

/-! ## From line to line -/

/-- What is kept of the line break of the last line and the breaks of the empty lines behind it. -/
def ScalarReader.Chomping.kept (chomping : Chomping) (first breaks : List Char) : List Char :=
  match chomping with
  | .strip => []
  | .clip => first
  | .keep => first ++ breaks

/-- A block ends at a token that stands further to the left than its lines. -/
theorem blockLines_finish (indent : Nat) (chomping : Chomping) (fuel : Nat)
    (first breaks : List Char) (leading : Bool) {cur : Cursor} (h : cur.mark.column < indent) :
    blockLines true indent chomping (fuel + 1) first breaks leading cur =
      some (chomping.kept first breaks, cur) := by
  rw [blockLines]
  split
  · rw [if_neg (Nat.ne_of_lt h)]
    rfl
  · rfl

/-- A line is read with the breaks before it, and the reader goes on with the next line that is not
empty. -/
theorem blockLines_line {indent : Nat} (chomping : Chomping) (fuel : Nat) (first breaks : List Char)
    (leading : Bool) {c : Char} {l : List Char} (hl : ∀ d ∈ c :: l, isBreak d = false) {b : Char}
    (hbreak : isBreak b = true) (hplain : isPlainChar b = true) {r : List Char} {m : Mark}
    (hm : m.column = indent) {more : List Char} {widest : Nat} {next : Cursor}
    (hnext : blockBreaks (some indent) 0 [] (m.past (c :: l ++ [b])) r =
      some (more, widest, next)) :
    blockLines true indent chomping (fuel + 1) first breaks leading
        ⟨c :: l ++ b :: r, m, true, 0⟩ =
      before (first ++ breaks ++ (c :: l))
        (blockLines true indent chomping fuel [b] more (isBlank c) next) := by
  rw [blockLines]
  show (if m.column = indent then _ else _) = _
  rw [if_pos hm, restOfLine_append hl hbreak hplain]
  rw [List.cons_append] at hnext
  simp [hnext]

/-- The last line is read with the breaks before it, and what is kept of those behind it. -/
theorem blockLines_last {indent n : Nat} (hn : n < indent) {tail : List Char}
    (htoken : BeginsToken tail) (chomping : Chomping) {b : Char} {t : List Char}
    (ht : AreBreaks (b :: t)) (fuel : Nat) (first breaks : List Char) (leading : Bool) {c : Char}
    {l : List Char} (hl : ∀ d ∈ c :: l, isBreak d = false) {m : Mark} (hm : m.column = indent) :
    blockLines true indent chomping (fuel + 2) first breaks leading
        ⟨literalBody indent false (c :: l ++ b :: t) ++ (spaces n ++ tail), m, true, 0⟩ =
      some (first ++ breaks ++ (c :: l) ++ chomping.kept [b] t,
        ⟨tail, m.past (literalBody indent false (c :: l ++ b :: t) ++ spaces n), true, 0⟩) := by
  obtain ⟨⟨hbreak, hplain⟩, ht'⟩ := List.forall_mem_cons.1 ht
  obtain ⟨widest, hnext⟩ := blockBreaks_reach (Nat.le_of_lt hn) ht'
    (fun d hd => ⟨(htoken.head hd).1, fun _ => (htoken.head hd).2⟩)
    (m.column_past hbreak (c :: l)) 0
  have htext : literalBody indent false (c :: l ++ b :: t) = c :: l ++ b :: t := by
    rw [literalBody_line indent hl, literalBody, if_pos hbreak, literalBody_areBreaks indent ht']
  have hmark : (m.past (c :: l ++ [b])).past (t ++ spaces n) =
      m.past (c :: l ++ b :: t ++ spaces n) := by
    simp [← Mark.past_append]
  have hcolumn : (m.past (c :: l ++ b :: t ++ spaces n)).column < indent := by
    rw [← hmark, Mark.past_append, Mark.past_spaces]
    show ((m.past (c :: l ++ [b])).past t).column + n < indent
    rw [AreBreaks.column_past ht' (m.column_past hbreak (c :: l))]
    omega
  rw [hmark] at hnext
  have hline := blockLines_line chomping (fuel + 1) first breaks leading hl hbreak hplain hm hnext
  rw [blockLines_finish indent chomping fuel [b] t _ hcolumn] at hline
  rw [htext, List.append_assoc]
  refine hline.trans ?_
  simp [before]

/-- Behind the breaks at the end of a line another line is indented. -/
theorem literalBody_further (indent : Nat) {c : Char} {l : List Char}
    (hl : ∀ d ∈ c :: l, isBreak d = false) {d : Char} {bs : List Char} (hbs : AreBreaks (d :: bs))
    {e : Char} (he : isBreak e = false) (r : List Char) :
    literalBody indent false (c :: l ++ d :: (bs ++ e :: r)) =
      c :: l ++ d :: (bs ++ (spaces indent ++ literalBody indent false (e :: r))) := by
  obtain ⟨⟨hd, -⟩, hbs⟩ := List.forall_mem_cons.1 hbs
  rw [literalBody_line indent hl, literalBody, if_pos hd, literalBody_breaks indent hbs,
    literalBody_indent indent he]

/-- A line before another is read with the breaks before it. -/
theorem blockLines_further {indent : Nat} (chomping : Chomping) (fuel : Nat)
    (first breaks : List Char) (leading : Bool) {c : Char} {l : List Char}
    (hl : ∀ d ∈ c :: l, isBreak d = false) {d : Char} {bs : List Char} (hbs : AreBreaks (d :: bs))
    {e : Char} (he : isBreak e = false) (r tail : List Char) {m : Mark} (hm : m.column = indent) :
    blockLines true indent chomping (fuel + 1) first breaks leading
        ⟨literalBody indent false (c :: l ++ d :: (bs ++ e :: r)) ++ tail, m, true, 0⟩ =
      before (first ++ breaks ++ (c :: l)) (blockLines true indent chomping fuel [d] bs (isBlank c)
        ⟨literalBody indent false (e :: r) ++ tail,
          (m.past (c :: l ++ [d])).past (bs ++ spaces indent), true, 0⟩) := by
  rw [literalBody_further indent hl hbs he]
  obtain ⟨⟨hd, hplain⟩, hbs⟩ := List.forall_mem_cons.1 hbs
  obtain ⟨widest, hnext⟩ := blockBreaks_reach (Nat.le_refl indent) hbs
    (r := literalBody indent false (e :: r) ++ tail) (by
      intro f hf
      have hef : e = f := by
        simpa [literalBody, he] using hf
      exact ⟨hef ▸ he, fun h => absurd h (Nat.lt_irrefl indent)⟩)
    (m.column_past hd (c :: l)) 0
  have hline := blockLines_line chomping fuel first breaks leading hl hd hplain hm hnext
  rw [← hline]
  simp only [List.append_assoc, List.cons_append]

/-- The lines of a text that begins and ends with one are read as the text, with the breaks before
it, and what is kept of those behind it. -/
theorem blockLines_literalBody {indent n : Nat} (hn : n < indent) {tail : List Char}
    (htoken : BeginsToken tail) (chomping : Chomping) {b : Char} {t : List Char}
    (ht : AreBreaks (b :: t)) (c : Char) (body : List Char)
    (hchars : ∀ d ∈ c :: body, isPlainChar d = true) (hhead : isBreak c = false)
    (hlast : finishesWith isBreak (c :: body) = false) (fuel : Nat) (hfuel : body.length + 2 ≤ fuel)
    (first breaks : List Char) (leading : Bool) {m : Mark} (hm : m.column = indent) :
    blockLines true indent chomping fuel first breaks leading
        ⟨literalBody indent false (c :: body ++ b :: t) ++ (spaces n ++ tail), m, true, 0⟩ =
      some (first ++ breaks ++ (c :: body) ++ chomping.kept [b] t,
        ⟨tail, m.past (literalBody indent false (c :: body ++ b :: t) ++ spaces n), true, 0⟩) := by
  -- By the length of the text: each round of the reader takes a line and the breaks behind it.
  induction hsize : body.length using Nat.strongRecOn
    generalizing c body fuel first breaks leading m
  next size ih =>
  obtain ⟨fuel, rfl⟩ : ∃ k, fuel = k + 2 := ⟨fuel - 2, by omega⟩
  obtain ⟨l, r, hbody, hl, hr⟩ := exists_line hhead body
  cases r with
  | nil =>
    obtain rfl : body = l := by simpa using hbody
    exact blockLines_last hn htoken chomping ht fuel first breaks leading hl hm
  | cons d r =>
    obtain rfl : body = l ++ d :: r := (List.cons.inj hbody).2
    have hrest : ∀ e ∈ d :: r, isPlainChar e = true := fun e he =>
      hchars e (List.mem_cons_of_mem c (List.mem_append_right l he))
    obtain ⟨hd, hrest⟩ := List.forall_mem_cons.1 hrest
    obtain ⟨bs, r, rfl, hbs, hr'⟩ := exists_breaks hrest
    have hbs' : AreBreaks (d :: bs) := List.forall_mem_cons.2 ⟨⟨hr d rfl, hd⟩, hbs⟩
    rw [← List.cons_append, ← List.cons_append] at hlast
    cases r with
    | nil =>
      -- The text would end with a break.
      rw [List.append_nil, finishesWith_append _ _ (List.cons_ne_nil d bs),
        hbs'.finishesWith] at hlast
      cases hlast
    | cons e r =>
      have he : isBreak e = false := by simpa [startsWith] using hr'
      have hplain : ∀ f ∈ e :: r, isPlainChar f = true := fun f hf =>
        hrest f (List.mem_append_right bs hf)
      have hend : finishesWith isBreak (e :: r) = false := by
        rwa [← List.append_assoc, finishesWith_append _ _ (List.cons_ne_nil e r)] at hlast
      have hlength : r.length + 2 ≤ (l ++ d :: (bs ++ e :: r)).length := by
        simp only [List.length_append, List.length_cons]
        omega
      have hcolumn : ((m.past (c :: l ++ [d])).past (bs ++ spaces indent)).column = indent := by
        rw [Mark.past_append, Mark.past_spaces]
        show ((m.past (c :: l ++ [d])).past bs).column + indent = indent
        rw [hbs.column_past (m.column_past (hr d rfl) (c :: l)), Nat.zero_add]
      have htext : c :: (l ++ d :: (bs ++ e :: r)) ++ b :: t =
          c :: l ++ d :: (bs ++ e :: (r ++ b :: t)) := by
        simp
      have ih' := ih r.length (by omega) e r hplain he hend (fuel + 1) (by omega) [d] bs
        (isBlank c) hcolumn rfl
      rw [htext, blockLines_further chomping (fuel + 1) first breaks leading hl hbs' he
        (r ++ b :: t) (spaces n ++ tail) hm]
      refine (congrArg (before _) ih').trans ?_
      rw [literalBody_further indent hl hbs' he]
      simp [before, ← Mark.past_append]

/-! ## The breaks at the end -/

/-- A text is what ends with no break and the line breaks at its end. -/
theorem exists_trail {cs : List Char} (h : ∀ c ∈ cs, isPlainChar c = true) :
    ∃ r t, cs = r ++ t ∧ AreBreaks t ∧ finishesWith isBreak r = false := by
  have hreverse : ∀ c ∈ cs.reverse, isPlainChar c = true := by simpa using h
  obtain ⟨bs, r, hcs, hbs, hr⟩ := exists_breaks hreverse
  refine ⟨r.reverse, bs.reverse, ?_, ?_, ?_⟩
  · rw [← List.reverse_append, ← hcs, List.reverse_reverse]
  · intro c hc
    exact hbs c (List.mem_reverse.1 hc)
  · unfold finishesWith
    rwa [List.getLast?_reverse]

/-- The head of a block without a break at its end. -/
theorem chomping_of_body {r : List Char} (hne : r ≠ []) (hr : finishesWith isBreak r = false) :
    chomping r = ['-'] := by
  unfold finishesWith at hr
  rw [← List.head?_reverse] at hr
  unfold chomping
  split
  · next h => exact absurd (List.reverse_eq_nil_iff.1 h) hne
  · next c h =>
    rw [h] at hr
    exact if_neg (by simpa using hr)
  · next c d _ h =>
    rw [h] at hr
    exact if_neg (by simpa using hr)

/-- The head of a block with one line break behind its last line. -/
theorem chomping_of_line {r : List Char} (hne : r ≠ []) (hr : finishesWith isBreak r = false)
    {b : Char} (hb : isBreak b = true) : chomping (r ++ [b]) = [] := by
  unfold finishesWith at hr
  rw [← List.head?_reverse] at hr
  obtain ⟨c, cs, hcs⟩ := List.exists_cons_of_ne_nil (mt List.reverse_eq_nil_iff.1 hne)
  rw [hcs] at hr
  have hc : isBreak c = false := by simpa using hr
  unfold chomping
  rw [List.reverse_append, hcs]
  simp [hb, hc]

/-- The head of a block of empty lines, and of one with empty lines at its end. -/
theorem chomping_of_breaks {r t : List Char} {b : Char} (ht : AreBreaks (b :: t))
    (h : r = [] ∨ t ≠ []) : chomping (r ++ b :: t) = ['+'] := by
  have hbreaks : ∀ c ∈ (b :: t).reverse, isBreak c = true := fun c hc =>
    (ht c (List.mem_reverse.1 hc)).1
  unfold chomping
  rw [List.reverse_append]
  match hrev : (b :: t).reverse with
  | [] => exact absurd (List.reverse_eq_nil_iff.1 hrev) nofun
  | [c] =>
    have hlength := congrArg List.length hrev
    rcases h with rfl | h
    · rw [hrev] at hbreaks
      simp [hbreaks c List.mem_cons_self]
    · simp [h] at hlength
  | c :: d :: s =>
    rw [hrev] at hbreaks
    have hc := hbreaks c List.mem_cons_self
    have hd := hbreaks d (List.mem_cons_of_mem c List.mem_cons_self)
    simp [hc, hd]

/-- The indicator of the head that says what to keep. -/
theorem chomping_cases (cs : List Char) :
    chomping cs = ['-'] ∨ chomping cs = ['+'] ∨ chomping cs = [] := by
  unfold chomping
  split
  · simp
  · split <;> simp
  · split
    · split <;> simp
    · simp

/-- The digit in the head of a block, if there is one. -/
def hint (b : Bool) : List Char := if b then ['2'] else []

/-- The head of a block says what to keep of the breaks behind its last line: all that the text
has. -/
theorem exists_chomping {r t : List Char} (hne : r ++ t ≠ []) (hr : finishesWith isBreak r = false)
    (ht : AreBreaks t) :
    ∃ kept : Chomping,
      (∀ b rest, blockHeader? (hint b ++ chomping (r ++ t) ++ '\n' :: rest) =
        some (if b then some 2 else none, kept, '\n' :: rest)) ∧
      (r = [] → kept = .keep) ∧ (t = [] → kept = .strip) ∧
      ∀ b t', r ≠ [] → t = b :: t' → kept.kept [b] t' = t := by
  cases t with
  | nil =>
    rw [List.append_nil] at hne ⊢
    refine ⟨.strip, ?_, fun h => absurd h hne, fun _ => rfl, nofun⟩
    rw [chomping_of_body hne hr]
    intro b rest
    cases b <;> rfl
  | cons c t =>
    by_cases h : r = [] ∨ t ≠ []
    · refine ⟨.keep, ?_, fun _ => rfl, nofun, ?_⟩
      · rw [chomping_of_breaks ht h]
        intro b rest
        cases b <;> rfl
      · rintro b _ - ⟨⟩
        rfl
    · obtain ⟨hr', ht'⟩ := not_or.1 h
      obtain rfl := Decidable.not_not.1 ht'
      refine ⟨.clip, ?_, fun h => absurd h hr', nofun, ?_⟩
      · rw [chomping_of_line hr' hr (ht c List.mem_cons_self).1]
        intro b rest
        cases b <;> rfl
      · rintro b _ - ⟨⟩
        rfl

/-! ## The whole block -/

/-- Whether the head of a block gives the indentation. -/
def hides (cs : List Char) : Bool := startsWith (fun c => isSpace c || isBreak c) cs

/-- What is written of a text loses no character. -/
theorem length_le_literalBody (indent : Nat) (afterBreak : Bool) (cs : List Char) :
    cs.length ≤ (literalBody indent afterBreak cs).length := by
  induction cs generalizing afterBreak with
  | nil => exact Nat.zero_le _
  | cons c cs ih =>
    rw [literalBody]
    split
    · exact Nat.succ_le_succ (ih true)
    · have := ih false
      simp only [List.length_append, List.length_cons]
      omega

/-- Line breaks at the end are written as they are. -/
theorem literalBody_append_breaks (indent : Nat) (afterBreak : Bool) (cs : List Char) {b : Char}
    {t : List Char} (ht : AreBreaks (b :: t)) :
    literalBody indent afterBreak (cs ++ b :: t) = literalBody indent afterBreak cs ++ b :: t := by
  induction cs generalizing afterBreak with
  | nil =>
    obtain ⟨⟨hbreak, -⟩, ht⟩ := List.forall_mem_cons.1 ht
    show literalBody indent afterBreak (b :: t) = b :: t
    rw [literalBody, if_pos hbreak, literalBody_areBreaks indent ht]
  | cons c cs ih =>
    rw [List.cons_append, literalBody, literalBody, ih, ih]
    split
    · rfl
    · simp

/-- What is written of a text ends as the text does. -/
theorem finishesWith_literalBody (p : Char → Bool) (indent : Nat) (afterBreak : Bool)
    (cs : List Char) :
    finishesWith p (literalBody indent afterBreak cs) = finishesWith p cs := by
  induction cs generalizing afterBreak with
  | nil => rfl
  | cons c cs ih =>
    have hcons (afterBreak : Bool) :
        finishesWith p (c :: literalBody indent afterBreak cs) = finishesWith p (c :: cs) := by
      cases cs with
      | nil => rfl
      | cons d cs =>
        have hne : literalBody indent afterBreak (d :: cs) ≠ [] := by
          rw [← List.length_pos_iff]
          exact Nat.lt_of_lt_of_le (Nat.succ_pos cs.length)
            (length_le_literalBody indent afterBreak (d :: cs))
        exact (finishesWith_append p [c] hne).trans
          ((ih afterBreak).trans (finishesWith_append p [c] (List.cons_ne_nil d cs)).symm)
    rw [literalBody]
    split
    · exact hcons true
    · rw [finishesWith_append _ _ (List.cons_ne_nil _ _)]
      exact hcons false

/-- A literal block with the line break at its end. -/
theorem line_literalBlock (indent : Nat) {r t : List Char} (hne : r ++ t ≠ [])
    (hr : finishesWith isBreak r = false) (ht : AreBreaks t) :
    ∃ b t', Printer.line (literalBlock indent (r ++ t)) =
        '|' :: (hint (hides (r ++ t)) ++ chomping (r ++ t) ++ '\n' ::
          literalBody indent true (r ++ b :: t')) ∧
      AreBreaks (b :: t') ∧ (t = b :: t' ∨ (t = [] ∧ b = '\n' ∧ t' = [])) := by
  have hblock (cs : List Char) : literalBlock indent cs =
      ('|' :: (hint (hides cs) ++ chomping cs ++ ['\n'])) ++ literalBody indent true cs := by
    rw [List.cons_append, List.append_assoc, List.singleton_append]
    rfl
  have hend {cs : List Char} (hne : cs ≠ []) :
      (literalBlock indent cs).getLast?.any isBreak = finishesWith isBreak cs := by
    rw [hblock]
    refine (finishesWith_append isBreak _ ?_).trans
      (finishesWith_literalBody isBreak indent true cs)
    rw [← List.length_pos_iff] at hne ⊢
    exact Nat.lt_of_lt_of_le hne (length_le_literalBody indent true cs)
  unfold Printer.line
  rw [hend hne]
  cases t with
  | nil =>
    have hfeed : AreBreaks ['\n'] := by
      intro c hc
      obtain rfl := List.mem_singleton.1 hc
      exact ⟨rfl, rfl⟩
    refine ⟨'\n', [], ?_, hfeed, .inr ⟨rfl, rfl, rfl⟩⟩
    rw [List.append_nil, hr, literalBody_append_breaks indent true r hfeed, hblock]
    simp
  | cons b t =>
    have hlast : finishesWith isBreak (r ++ b :: t) = true := by
      rw [finishesWith_append _ _ (List.cons_ne_nil b t)]
      exact ht.finishesWith
    refine ⟨b, t, ?_, ht, .inl rfl⟩
    rw [hlast, hblock]
    simp

/-- What is read of a block behind its head, with the indentation if the head gives it. -/
def lines? (parent : Int) (kept : Chomping) (known : Option Nat) (m : Mark) (r : List Char) :
    Found :=
  (blockBreaks known 0 [] m r).bind fun (breaks, widest, first) =>
    blockLines true (known.getD (max widest (max (parent + 1).toNat 1))) kept
      (first.rest.length + 1) [] breaks false first

/-- A block is read from the line behind its head. -/
theorem block_head (parent : Int) {header r : List Char} {increment : Option Nat} {kept : Chomping}
    (h : blockHeader? (header ++ '\n' :: r) = some (increment, kept, '\n' :: r)) (m : Mark)
    (keyAllowed : Bool) :
    block true parent ⟨header ++ '\n' :: r, m, keyAllowed, 0⟩ =
      lines? parent kept (increment.map fun n => if 0 ≤ parent then parent.toNat + n else n)
        ((m.after header.length).nextLine 1) r := by
  have hlength : (header ++ '\n' :: r).length - ('\n' :: r).length = header.length := by
    rw [List.length_append, Nat.add_sub_cancel]
  have hend (m : Mark) : blockHeaderEnd? m false false ('\n' :: r) =
      some ⟨r, m.nextLine 1, true, 0⟩ := by
    rw [blockHeaderEnd?, if_pos (by decide)]
    exact fun _ h => absurd h (by decide)
  unfold block
  simp only [h, Option.bind_eq_bind, Option.bind_some, hlength, Cursor.drop, hend]
  rfl

/-- The indentation, if the head of the block of a text gives it. -/
def known? (indent : Nat) (cs : List Char) : Option Nat := if hides cs then some indent else none

section

variable {parent : Int} {indent n : Nat} {tail : List Char} {m : Mark} (hm : m.column = 0)
  (htoken : BeginsToken tail)

include hm

/-- Behind its head a block has empty lines, and the indentation of a line, which is known or found
out here. -/
theorem blockBreaks_first (hparent : parent < indent) (hindent : 0 < indent) {bs r : List Char}
    (hbs : AreBreaks bs) {c : Char} (hc : isBreak c = false) (htab : c ≠ '\t')
    (hr : r.head? = some c) (t : List Char) :
    ∃ widest,
      blockBreaks (known? indent (bs ++ c :: t)) 0 [] m (bs ++ (spaces indent ++ r)) =
          some (bs, widest, ⟨r, m.past (bs ++ spaces indent), true, 0⟩) ∧
        (known? indent (bs ++ c :: t)).getD (max widest (max (parent + 1).toNat 1)) = indent := by
  unfold known?
  by_cases h : hides (bs ++ c :: t) = true
  · obtain ⟨widest, hreach⟩ := blockBreaks_reach (Nat.le_refl indent) hbs (r := r)
      (by
        intro d hd
        obtain rfl : c = d := Option.some.inj (hr.symm.trans hd)
        exact ⟨hc, fun h => absurd h (Nat.lt_irrefl indent)⟩) hm 0
    refine ⟨widest, ?_⟩
    rw [if_pos h]
    exact ⟨hreach, rfl⟩
  · -- Without a hint the text begins with a line, and not with a space.
    obtain rfl : bs = [] := by
      cases bs with
      | nil => rfl
      | cons b bs =>
        have hb := (hbs b List.mem_cons_self).1
        simp [hides, startsWith, hb] at h
    have hspace : c ≠ ' ' := by
      rintro rfl
      simp [hides, startsWith, isSpace] at h
    have hnone : ∀ i ∈ (none : Option Nat), m.column + indent ≤ i := by
      intro i hi
      cases hi
    refine ⟨indent, ?_⟩
    rw [if_neg h, List.nil_append, List.nil_append, blockBreaks_spaces hnone, blockBreaks_stop,
      Mark.past_spaces]
    · constructor
      · show some ([], max 0 (m.column + indent), _) = _
        rw [hm, Nat.zero_add, Nat.zero_max]
      · show max indent (max (parent + 1).toNat 1) = indent
        omega
    · intro d hd
      obtain rfl : c = d := Option.some.inj (hr.symm.trans hd)
      exact ⟨hc, .inl ⟨hspace, htab⟩⟩

include htoken

/-- A block of empty lines is read as their breaks. -/
theorem lines?_breaks (hn : n < indent) {b : Char} {t : List Char} (ht : AreBreaks (b :: t)) :
    lines? parent .keep (known? indent (b :: t)) m
        (literalBody indent true (b :: t) ++ (spaces n ++ tail)) =
      some (b :: t, ⟨tail, m.past (literalBody indent true (b :: t) ++ spaces n), true, 0⟩) := by
  have hhides : hides (b :: t) = true := by
    simp [hides, startsWith, (ht b List.mem_cons_self).1]
  obtain ⟨widest, hreach⟩ := blockBreaks_reach (Nat.le_of_lt hn) ht
    (fun d hd => ⟨(htoken.head hd).1, fun _ => (htoken.head hd).2⟩) hm 0
  have hcolumn : (m.past (b :: t ++ spaces n)).column < indent := by
    rw [Mark.past_append, Mark.past_spaces]
    show (m.past (b :: t)).column + n < indent
    rw [ht.column_past hm]
    omega
  unfold lines? known?
  rw [hhides, if_pos rfl, literalBody_areBreaks indent ht, hreach, Option.bind_some]
  exact blockLines_finish indent .keep _ _ _ _ hcolumn

/-- A block that has a line is read as its text up to the last line, and what is kept of the breaks
behind that. -/
theorem lines?_append (hparent : parent < indent) (hn : n < indent) (kept : Chomping)
    {bs : List Char} (hbs : AreBreaks bs) {c : Char} {body : List Char} (hc : isBreak c = false)
    (hchars : ∀ d ∈ c :: body, isPlainChar d = true)
    (hlast : finishesWith isBreak (c :: body) = false) {b : Char} {t : List Char}
    (ht : AreBreaks (b :: t)) (t' : List Char) :
    lines? parent kept (known? indent (bs ++ c :: t')) m
        (literalBody indent true (bs ++ (c :: body ++ b :: t)) ++ (spaces n ++ tail)) =
      some (bs ++ (c :: body) ++ kept.kept [b] t,
        ⟨tail, m.past (literalBody indent true (bs ++ (c :: body ++ b :: t)) ++ spaces n),
          true, 0⟩) := by
  have htab : c ≠ '\t' := by
    rintro rfl
    exact absurd (hchars _ List.mem_cons_self) (by decide)
  have htext : literalBody indent true (bs ++ (c :: body ++ b :: t)) =
      bs ++ (spaces indent ++ literalBody indent false (c :: body ++ b :: t)) := by
    rw [literalBody_breaks indent hbs, List.cons_append, literalBody_indent indent hc]
  obtain ⟨widest, hfirst, hindent⟩ := blockBreaks_first hm hparent (by omega) hbs hc htab
    (r := literalBody indent false (c :: body ++ b :: t) ++ (spaces n ++ tail))
    (by simp [literalBody, hc]) t'
  have hcolumn : (m.past (bs ++ spaces indent)).column = indent := by
    rw [Mark.past_append, Mark.past_spaces]
    show (m.past bs).column + indent = indent
    rw [hbs.column_past hm, Nat.zero_add]
  have hfuel : body.length + 2 ≤
      (literalBody indent false (c :: body ++ b :: t) ++ (spaces n ++ tail)).length + 1 := by
    have := length_le_literalBody indent false (c :: body ++ b :: t)
    simp only [List.length_append, List.length_cons] at this ⊢
    omega
  have hlines := blockLines_literalBody hn htoken kept ht c body hchars hc hlast _ hfuel [] bs false
    hcolumn
  unfold lines?
  rw [htext, List.append_assoc, List.append_assoc, hfirst, Option.bind_some]
  dsimp only
  rw [hindent, hlines]
  simp [← Mark.past_append]

end

/-- A hint, where there is one, counts from where the block's parent stands. -/
theorem known?_of_hint {parent : Int} {indent : Nat} (hindent : (indent : Int) = max parent 0 + 2)
    (cs : List Char) :
    ((if hides cs then some 2 else none).map fun n =>
      if 0 ≤ parent then parent.toNat + n else n) = known? indent cs := by
  unfold known?
  cases hides cs with
  | false => rfl
  | true =>
    show some (if 0 ≤ parent then parent.toNat + 2 else 2) = some indent
    congr 1
    split <;> omega

/-- The header of a literal block stands on one line. -/
theorem past_header (m : Mark) (hidden : Bool) (cs text : List Char) :
    m.past (hint hidden ++ chomping cs ++ '\n' :: text) =
      ((m.after (hint hidden ++ chomping cs).length).nextLine 1).past text := by
  have hnone : ∀ c ∈ hint hidden ++ chomping cs, isBreak c = false := by
    intro c hc
    have hindicator : c = '2' ∨ c = '-' ∨ c = '+' := by
      rcases List.mem_append.1 hc with hc | hc
      · unfold hint at hc
        split at hc <;> simp_all
      · rcases chomping_cases cs with h | h | h <;> rw [h] at hc <;> simp_all
    rcases hindicator with rfl | rfl | rfl <;> decide
  rw [Mark.past_append, Mark.past_eq_after hnone, Mark.past_cons_break (by decide)]

/-- A literal block is read as the text that it was written from. -/
theorem block_literalBlock {parent : Int} {indent : Nat}
    (hindent : (indent : Int) = max parent 0 + 2)
    {cs : List Char} (h : literalAllowed cs = true) {dash : Bool} {rest : List Char}
    (hrest : Outdents parent dash rest) (m : Mark) :
    ∃ header, Printer.line (literalBlock indent cs) = '|' :: header ∧
      block true parent ⟨header ++ rest, m, false, 0⟩ =
        some (cs, (Cursor.mk rest (m.past header) true 0).skip) := by
  obtain ⟨n, tail, rfl, htoken, hcolumn⟩ := hrest
  have hn : n < indent := by omega
  unfold literalAllowed needsEscapes at h
  simp only [Bool.and_eq_true, Bool.not_eq_true', Bool.or_eq_false_iff, Bool.not_eq_false',
    List.all_eq_true, bne_iff_ne] at h
  obtain ⟨⟨⟨-, hchars⟩, hne⟩, -⟩ := h
  obtain ⟨r, t, rfl, ht, hr⟩ := exists_trail hchars
  obtain ⟨kept, hheader, hnil, hstrip, hkept⟩ := exists_chomping hne hr ht
  obtain ⟨b, t', hline, ht', htrail⟩ := line_literalBlock indent hne hr ht
  refine ⟨_, hline, ?_⟩
  rw [Cursor.skip_spaces htoken, past_header, ← Mark.past_spaces, ← Mark.past_append, List.append_assoc,
    List.cons_append, block_head parent (hheader _ _), known?_of_hint hindent]
  generalize hm : (m.after _).nextLine 1 = m'
  have hm' : m'.column = 0 := hm ▸ rfl
  have hplain : ∀ d ∈ r, isPlainChar d = true := fun d hd => hchars d (List.mem_append_left t hd)
  obtain ⟨bs, r', rfl, hbs, hhead⟩ := exists_breaks hplain
  cases r' with
  | nil =>
    -- There are only empty lines.
    obtain rfl : bs = [] := by
      cases bs with
      | nil => rfl
      | cons d bs =>
        rw [List.append_nil, hbs.finishesWith] at hr
        cases hr
    obtain rfl : t = b :: t' := htrail.resolve_right fun h => hne h.1
    rw [hnil rfl]
    exact lines?_breaks hm' htoken hn ht
  | cons c body =>
    have hc : isBreak c = false := by simpa [startsWith] using hhead
    have htext : kept.kept [b] t' = t := by
      rcases htrail with rfl | ⟨rfl, rfl, rfl⟩
      · exact hkept b t' (by simp) rfl
      · rw [hstrip rfl]
        rfl
    have hlt : parent < indent := by omega
    have hlines := lines?_append hm' htoken hlt hn kept hbs hc
      (fun d hd => hchars d (List.mem_append_left t (List.mem_append_right bs hd)))
      (by rwa [finishesWith_append _ _ (List.cons_ne_nil c body)] at hr) ht' (body ++ t)
    rw [htext] at hlines
    simpa only [List.append_assoc, List.cons_append] using hlines

end AlertSync.Yaml
