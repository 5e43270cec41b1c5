import AlertSync.Json.Printer
import AlertSync.Json.Reader

/-!
# Reading back written JSON

What `Json.text` writes of a tree, `Json.parse?` reads as the value that the tree stands for
(`parse?_text`). Strings are read back character by character, since each escape stands for its
character (`string?_escapeChar`) and no character is half of a pair (`pairUp?_map_toNat`); lists and
records are read back part by part. The reader has as many steps as the text has characters, and
`cost` says that this is enough.
-/

namespace AlertSync.Json

/-! ## Strings -/

/-- The four digits of a control character are read as its code. -/
theorem ofHex?_padded : ∀ n < 32,
    (List.replicate (4 - (Numeral.hex n).length) '0' ++ Numeral.hex n).length = 4 ∧
      Numeral.ofHex? (List.replicate (4 - (Numeral.hex n).length) '0' ++ Numeral.hex n) =
        some n := by
  decide

/-- The escaped form of a character is read as that character. -/
theorem string?_escapeChar (c : Char) (rest : List Char) :
    string? (escapeChar c ++ rest) = (string? rest).map fun (us, r) => (c.toNat :: us, r) := by
  unfold escapeChar
  -- Seven characters have an escape of their own.
  split
  · next h => subst h; simp [string?, escape?]
  split
  · next h => subst h; simp [string?, escape?]
  split
  · next h => subst h; simp [string?, escape?]
  split
  · next h => subst h; simp [string?, escape?]
  split
  · next h => subst h; simp [string?, escape?]
  split
  · next h => subst h; simp [string?, escape?]
  split
  · next h => subst h; simp [string?, escape?]
  split
  · -- Any other control character is written by its code.
    next h =>
    obtain ⟨hlen, hval⟩ := ofHex?_padded c.toNat h
    rw [List.append_assoc ['\\', 'u'], List.append_assoc ['\\', 'u']]
    generalize List.replicate (4 - (Numeral.hex c.toNat).length) '0' ++ Numeral.hex c.toNat = ds
      at hlen hval
    obtain ⟨d₁, d₂, d₃, d₄, rfl⟩ : ∃ d₁ d₂ d₃ d₄, ds = [d₁, d₂, d₃, d₄] := by
      match ds, hlen with
      | [d₁, d₂, d₃, d₄], _ => exact ⟨d₁, d₂, d₃, d₄, rfl⟩
    simp [string?, hval]
  · -- What has no escape is none of the characters that the reader looks for.
    next hquote hback _ _ _ _ _ hctl =>
    rw [List.singleton_append, string?]
    · rw [if_neg (by simp [hctl, hback])]
    · exact hquote
    · exact fun _ _ _ _ _ h _ => hback h
    · exact fun _ _ h _ => hback h

/-- A string between quotes is read as the codes of its characters. -/
theorem string?_stringChars (s : List Char) (rest : List Char) :
    string? (s.flatMap escapeChar ++ '"' :: rest) = some (s.map Char.toNat, rest) := by
  induction s with
  | nil => simp [string?]
  | cons c s ih =>
    rw [List.flatMap_cons, List.append_assoc, string?_escapeChar, ih]
    rfl

/-- The code of a character is not that of half of a pair. -/
theorem not_surrogate (c : Char) : ¬(0xd800 ≤ c.toNat ∧ c.toNat < 0xe000) := by
  have h : c.toNat < 0xd800 ∨ 0xdfff < c.toNat ∧ c.toNat < 0x110000 := c.valid
  omega

/-- The codes of characters denote these characters. -/
theorem pairUp?_map_toNat (s : List Char) : pairUp? (s.map Char.toNat) = some s := by
  induction s with
  | nil => rfl
  | cons c s ih =>
    have hc := not_surrogate c
    cases s with
    | nil =>
      show pairUp? [c.toNat] = some [c]
      rw [pairUp?, if_neg hc, Char.ofNat_toNat]
    | cons d s =>
      show pairUp? (c.toNat :: d.toNat :: s.map Char.toNat) = some (c :: d :: s)
      rw [pairUp?, if_neg (by omega), if_neg (by omega)]
      have ih' : pairUp? (d.toNat :: s.map Char.toNat) = some (d :: s) := ih
      rw [ih', Option.map_some, Char.ofNat_toNat]

/-- The codes of the characters of a text denote the text. -/
theorem textOf_map_toNat (s : String) : textOf (s.toList.map Char.toNat) = some s := by
  unfold textOf
  rw [pairUp?_map_toNat, Option.map_some, String.ofList_toList]

/-! ## Numbers -/

/-- What may stand behind a value: nothing, or what ends an item, a list or a record. -/
def EndsValue (rest : List Char) : Prop :=
  ∀ c ∈ rest.head?, c = ',' ∨ c = ']' ∨ c = '\x7d'

/-- The digits of a number begin with a zero only if the number is zero. -/
theorem head_decimal (n : Nat) (hn : 0 < n) : ∃ d ds, Numeral.decimal n = d :: ds ∧ d ≠ '0' := by
  induction n using Nat.strongRecOn with
  | _ n ih =>
    unfold Numeral.decimal
    by_cases h : n < 10
    · have hdigit : ∀ k < 10, 0 < k → Nat.digitChar k ≠ '0' := by decide
      rw [Nat.toDigits_of_lt_base h]
      exact ⟨_, _, rfl, hdigit n h hn⟩
    · rw [Nat.toDigits_of_base_le (by decide) (by omega)]
      obtain ⟨d, ds, hds, hd⟩ := ih (n / 10) (by omega) (by omega)
      unfold Numeral.decimal at hds
      rw [hds]
      exact ⟨d, _, rfl, hd⟩

/-- Digits are read up to where a value ends. -/
theorem digits?_append {ds rest : List Char} (hne : ds ≠ []) (hall : ∀ d ∈ ds, d.isDigit = true)
    (hrest : EndsValue rest) : digits? (ds ++ rest) = some (ds, rest) := by
  have hstop : rest.takeWhile Char.isDigit = [] := by
    cases rest with
    | nil => rfl
    | cons c r =>
      rcases hrest c rfl with rfl | rfl | rfl <;> rfl
  unfold digits?
  rw [List.takeWhile_append_of_pos hall, hstop, List.append_nil]
  simp [hne]

/-- The digits of a number are read back. -/
theorem number?_decimal (n : Nat) {rest : List Char} (hrest : EndsValue rest) :
    number? (Numeral.decimal n ++ rest) = some (Numeral.decimal n, rest) := by
  have hall : ∀ d ∈ Numeral.decimal n, d.isDigit = true :=
    fun d hd => Numeral.isDigit_of_mem_decimal hd
  have hfraction : fraction? rest = some ([], rest) := by
    cases rest with
    | nil => rfl
    | cons c r => rcases hrest c rfl with rfl | rfl | rfl <;> rfl
  have hexponent : exponent? rest = some ([], rest) := by
    cases rest with
    | nil => rfl
    | cons c r => rcases hrest c rfl with rfl | rfl | rfl <;> rfl
  rcases Nat.eq_zero_or_pos n with rfl | hn
  · show number? ('0' :: rest) = some (['0'], rest)
    simp [number?, whole?, hfraction, hexponent]
  · -- The first digit is neither a sign nor a zero, which would have to stand alone.
    obtain ⟨d, ds, hds, hd⟩ := head_decimal n hn
    have hdigit : d.isDigit = true := hall d (by rw [hds]; exact List.mem_cons_self)
    have hminus : d ≠ '-' := by rintro rfl; exact absurd hdigit (by decide)
    have hwhole : whole? (Numeral.decimal n ++ rest) = some (Numeral.decimal n, rest) := by
      have hdigits := digits?_append (by rw [hds]; simp) hall hrest
      rw [hds, List.cons_append] at hdigits ⊢
      unfold whole?
      split
      · next heq => exact absurd (List.cons.inj heq).1 hd
      · exact hdigits
    unfold number?
    split
    next sign cs heq =>
    rw [hds, List.cons_append] at heq
    split at heq
    · next hcons => exact absurd (List.cons.inj hcons).1 hminus
    · obtain ⟨rfl, rfl⟩ := Prod.mk.inj heq
      rw [← List.cons_append, ← hds, hwhole]
      simp [hfraction, hexponent]

/-! ## Values -/

/-- The value that a tree is written as. -/
def valueOf : Tree → Value
  | .absent => .null
  | .flag b => .bool b
  | .number n => .number (Numeral.decimal n)
  | .text s => .string (some s)
  | .list items => .array (valuesOf items)
  | .record parts => .object (membersOf parts)
where
  valuesOf : List Tree → List Value
    | [] => []
    | t :: r => valueOf t :: valuesOf r
  membersOf : List (String × Tree) → List (Option String × Value)
    | [] => []
    | (name, t) :: r => (some name, valueOf t) :: membersOf r

/-- How many steps the reader takes for what is written of a tree. -/
def cost : Tree → Nat
  | .list items => itemsCost items + 1
  | .record parts => partsCost parts + 1
  | _ => 1
where
  itemsCost : List Tree → Nat
    | [] => 0
    | t :: r => cost t + itemsCost r + 1
  partsCost : List (String × Tree) → Nat
    | [] => 0
    | (_, t) :: r => cost t + partsCost r + 1

/-- A written value begins with a character that is neither a blank nor the end of anything. -/
theorem chars_head (t : Tree) :
    ∃ c cs, chars t = c :: cs ∧ c ≠ ']' ∧ c ≠ '\x7d' ∧ ∀ r, skip (c :: r) = c :: r := by
  have hskip : ∀ c : Char, (c = ' ' || c = '\n' || c = '\t' || c = '\r') = false →
      ∀ r, skip (c :: r) = c :: r := by
    intro c hc r
    unfold skip
    rw [List.dropWhile_cons, if_neg (by simpa using hc)]
  match t with
  | .absent => exact ⟨_, _, rfl, by decide, by decide, hskip _ (by decide)⟩
  | .flag true => exact ⟨_, _, rfl, by decide, by decide, hskip _ (by decide)⟩
  | .flag false => exact ⟨_, _, rfl, by decide, by decide, hskip _ (by decide)⟩
  | .text s => exact ⟨_, _, rfl, by decide, by decide, hskip _ (by decide)⟩
  | .list [] => exact ⟨_, _, rfl, by decide, by decide, hskip _ (by decide)⟩
  | .list (_ :: _) => exact ⟨_, _, rfl, by decide, by decide, hskip _ (by decide)⟩
  | .record [] => exact ⟨_, _, rfl, by decide, by decide, hskip _ (by decide)⟩
  | .record (_ :: _) => exact ⟨_, _, rfl, by decide, by decide, hskip _ (by decide)⟩
  | .number n =>
    obtain ⟨d, ds, hds⟩ : ∃ d ds, Numeral.decimal n = d :: ds := by
      rcases Nat.eq_zero_or_pos n with rfl | hn
      · exact ⟨_, _, rfl⟩
      · obtain ⟨d, ds, hds, -⟩ := head_decimal n hn
        exact ⟨d, ds, hds⟩
    have hdigit : d.isDigit = true :=
      Numeral.isDigit_of_mem_decimal (n := n) (by rw [hds]; exact List.mem_cons_self)
    refine ⟨d, ds, hds, ?_, ?_, hskip d ?_⟩
    · rintro rfl
      exact absurd hdigit (by decide)
    · rintro rfl
      exact absurd hdigit (by decide)
    · rw [Bool.eq_false_iff]
      intro h
      simp only [Bool.or_eq_true, decide_eq_true_eq] at h
      rcases h with ((rfl | rfl) | rfl) | rfl <;> exact absurd hdigit (by decide)

/-- What follows an item ends it. -/
theorem endsValue_itemChars (items : List Tree) (rest : List Char) :
    EndsValue (itemChars items ++ rest) := by
  cases items <;> simp [EndsValue, itemChars]

/-- What follows a part ends it. -/
theorem endsValue_partChars (parts : List (String × Tree)) (rest : List Char) :
    EndsValue (partChars parts ++ rest) := by
  cases parts with
  | nil => simp [EndsValue, partChars]
  | cons p parts =>
    obtain ⟨name, t⟩ := p
    simp [EndsValue, partChars]

/-- A part is read as its name and what its value is read as. -/
theorem members?_part (name : String) (fuel : Nat) (cs : List Char) :
    members? (fuel + 1) (stringChars name ++ ':' :: cs) =
      (value? fuel cs).bind fun (v, r) =>
        match skip r with
        | ',' :: r => (members? fuel r).map fun (ms, r) => ((some name, v) :: ms, r)
        | '\x7d' :: r => some ([(some name, v)], r)
        | _ => none := by
  rw [members?]
  show (string? (name.toList.flatMap escapeChar ++ ['"'] ++ ':' :: cs)).bind _ = _
  rw [List.append_assoc, List.singleton_append, string?_stringChars]
  simp only [Option.bind_some, textOf_map_toNat]
  rfl

mutual

/-- What is written of a tree is read as its value. -/
theorem value?_chars : ∀ (t : Tree) (fuel : Nat) (rest : List Char), cost t ≤ fuel →
    EndsValue rest → value? fuel (chars t ++ rest) = some (valueOf t, rest)
  | t, 0, _, h, _ => by cases t <;> simp [cost] at h
  | .absent, fuel + 1, rest, _, _ => rfl
  | .flag true, fuel + 1, rest, _, _ => rfl
  | .flag false, fuel + 1, rest, _, _ => rfl
  | .number n, fuel + 1, rest, _, hrest => by
    have hnumber := number?_decimal n hrest
    obtain ⟨c, cs, hc, -, -, hskip⟩ := chars_head (.number n)
    have hdigit : c.isDigit = true :=
      Numeral.isDigit_of_mem_decimal (n := n) (by
        show c ∈ chars (.number n)
        rw [hc]
        exact List.mem_cons_self)
    have hne : ∀ d : Char, d.isDigit = false → c ≠ d := by
      rintro d hd rfl
      rw [hdigit] at hd
      exact absurd hd (by decide)
    rw [value?, hc, List.cons_append, hskip]
    -- A digit begins none of the other values.
    split
    case h_7 =>
      rw [← List.cons_append, ← hc]
      show Option.map _ (number? (Numeral.decimal n ++ rest)) = _
      rw [hnumber]
      rfl
    all_goals
      next heq => exact absurd (List.cons.inj heq).1 (hne _ (by decide))
  | .text s, fuel + 1, rest, _, _ => by
    show value? (fuel + 1) ('"' :: (s.toList.flatMap escapeChar ++ ['"']) ++ rest) = _
    rw [List.cons_append, List.append_assoc, List.singleton_append, value?]
    show Option.map _ (string? _) = _
    rw [string?_stringChars, Option.map_some]
    show some (Value.string (textOf _), rest) = _
    rw [textOf_map_toNat]
    rfl
  | .list [], fuel + 1, rest, _, _ => rfl
  | .list (t :: r), fuel + 1, rest, h, _ => by
    -- The reader looks for the end of the list first, and no item begins like that.
    obtain ⟨c, cs, hc, hlist, -, hskip⟩ := chars_head t
    have hitems := items?_chars t r fuel rest (by simpa [cost] using h)
    show value? (fuel + 1) ('[' :: (chars t ++ itemChars r) ++ rest) = _
    rw [List.cons_append, List.append_assoc, value?]
    rw [hc, List.cons_append] at hitems ⊢
    show (match skip (c :: (cs ++ (itemChars r ++ rest))) with
      | ']' :: r => some (Value.array [], r)
      | _ => (items? fuel (c :: (cs ++ (itemChars r ++ rest)))).map
          fun (vs, r) => (Value.array vs, r)) = _
    rw [hskip, hitems]
    split
    · next heq => exact absurd (List.cons.inj heq).1 hlist
    · rfl
  | .record [], fuel + 1, rest, _, _ => rfl
  | .record ((name, t) :: r), fuel + 1, rest, h, _ => by
    have hmembers := members?_chars name t r fuel rest (by simpa [cost] using h)
    show value? (fuel + 1) ('\x7b' :: (stringChars name ++ ':' :: (chars t ++ partChars r)) ++ rest)
      = _
    rw [List.cons_append, List.append_assoc, List.cons_append, List.append_assoc, value?]
    show Option.map _ (members? fuel _) = _
    rw [hmembers]
    rfl

/-- What is written of items is read as their values. -/
theorem items?_chars : ∀ (t : Tree) (items : List Tree) (fuel : Nat) (rest : List Char),
    cost.itemsCost (t :: items) ≤ fuel →
    items? fuel (chars t ++ (itemChars items ++ rest)) = some (valueOf.valuesOf (t :: items), rest)
  | _, _, 0, _, h => by simp [cost.itemsCost] at h
  | t, [], fuel + 1, rest, h => by
    rw [items?, value?_chars t fuel _ (by simp [cost.itemsCost] at h; omega)
      (endsValue_itemChars [] rest)]
    rfl
  | t, u :: items, fuel + 1, rest, h => by
    have hrest := items?_chars u items fuel rest (by simp [cost.itemsCost] at h ⊢; omega)
    rw [items?, value?_chars t fuel _ (by simp [cost.itemsCost] at h; omega)
      (endsValue_itemChars (u :: items) rest)]
    show Option.map _ (items? fuel ((chars u ++ itemChars items) ++ rest)) = _
    rw [List.append_assoc, hrest]
    rfl

/-- What is written of parts is read as their names and values. -/
theorem members?_chars : ∀ (name : String) (t : Tree) (parts : List (String × Tree)) (fuel : Nat)
    (rest : List Char), cost.partsCost ((name, t) :: parts) ≤ fuel →
    members? fuel (stringChars name ++ ':' :: (chars t ++ (partChars parts ++ rest))) =
      some (valueOf.membersOf ((name, t) :: parts), rest)
  | _, _, _, 0, _, h => by simp [cost.partsCost] at h
  | name, t, [], fuel + 1, rest, h => by
    rw [members?_part, value?_chars t fuel _ (by simp [cost.partsCost] at h; omega)
      (endsValue_partChars [] rest)]
    rfl
  | name, t, (name', u) :: parts, fuel + 1, rest, h => by
    have hrest := members?_chars name' u parts fuel rest (by simp [cost.partsCost] at h ⊢; omega)
    rw [members?_part, value?_chars t fuel _ (by simp [cost.partsCost] at h; omega)
      (endsValue_partChars _ rest)]
    show Option.map _ (members? fuel
      ((stringChars name' ++ ':' :: (chars u ++ partChars parts)) ++ rest)) = _
    rw [List.append_assoc, List.cons_append, List.append_assoc, hrest]
    rfl

end

mutual

/-- The reader takes no more steps for a tree than what is written of it has characters. -/
theorem cost_le : ∀ t : Tree, cost t ≤ (chars t).length
  | .absent => by decide
  | .flag true => by decide
  | .flag false => by decide
  | .number n => by
    obtain ⟨c, cs, hc, -⟩ := chars_head (.number n)
    rw [hc]
    exact Nat.le_add_left 1 cs.length
  | .text s => by simp [cost, chars, stringChars]
  | .list [] => by decide
  | .list (t :: r) => by
    have ht := cost_le t
    have hr := itemsCost_lt r
    simp only [cost, cost.itemsCost, chars, List.length_cons, List.length_append]
    omega
  | .record [] => by decide
  | .record ((name, t) :: r) => by
    have ht := cost_le t
    have hr := partsCost_lt r
    simp only [cost, cost.partsCost, chars, List.length_cons, List.length_append]
    omega

/-- The reader takes fewer steps for the items after the first than there are characters. -/
theorem itemsCost_lt : ∀ items : List Tree, cost.itemsCost items < (itemChars items).length
  | [] => by decide
  | t :: r => by
    have ht := cost_le t
    have hr := itemsCost_lt r
    simp only [cost.itemsCost, itemChars, List.length_cons, List.length_append]
    omega

/-- The reader takes fewer steps for the parts after the first than there are characters. -/
theorem partsCost_lt : ∀ parts : List (String × Tree),
    cost.partsCost parts < (partChars parts).length
  | [] => by decide
  | (name, t) :: r => by
    have ht := cost_le t
    have hr := partsCost_lt r
    simp only [cost.partsCost, partChars, List.length_cons, List.length_append]
    omega

end

/-- What is written of a tree is read back. -/
theorem parse?_text (t : Tree) : parse? (text t) = some (valueOf t) := by
  have hcost := cost_le t
  have hread := value?_chars t (2 * (chars t).length + 1) [] (by omega) (by simp [EndsValue])
  rw [List.append_nil] at hread
  unfold parse? text
  simp only [String.toList_ofList, hread]
  rfl

end AlertSync.Json
