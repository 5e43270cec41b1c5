import AlertSync.Timestamp
import Mathlib.Algebra.Group.Nat.Defs

/-!
# Reading back written timestamps

What `Timestamp.text` writes, `Timestamp.parse?` reads as the same moment (`parse?_text`): every
field is written with a fixed number of digits, or behind a sign, so that its end is where the
reader stops, and the offset `Z` leaves the clock where it is.
-/

namespace AlertSync

/-! ## Fields of digits -/

/-- A number below a power of ten fills exactly that many digits. -/
theorem Numeral.length_padded {width n : Nat} (hw : 0 < width) (hn : n < 10 ^ width) :
    (padded width n).length = width := by
  have hlen : (decimal n).length ≤ width := (Nat.length_toDigits_le_iff (by decide) hw).2 hn
  unfold padded
  rw [List.length_append, List.length_replicate]
  omega

/-- Zeros before the digits of a number do not change it. -/
theorem Numeral.ofDecimal_padded (width n : Nat) : ofDecimal (padded width n) = n := by
  unfold padded ofDecimal
  rw [Nat.ofDigitChars_append, Nat.ofDigitChars_replicate_zero, Nat.mul_zero]
  exact ofDecimal_decimal n

/-- A padded number consists of digits. -/
theorem Numeral.isDigit_of_mem_padded {width n : Nat} {c : Char} (h : c ∈ padded width n) :
    c.isDigit = true := by
  unfold padded at h
  rcases List.mem_append.1 h with h | h
  · rw [(List.mem_replicate.1 h).2]
    decide
  · exact isDigit_of_mem_decimal h

/-- A padded number has a first digit. -/
theorem Numeral.exists_padded_eq_cons (width n : Nat) :
    ∃ d ds, padded width n = d :: ds ∧ d.isDigit = true := by
  cases h : padded width n with
  | nil =>
    unfold padded decimal at h
    exact absurd (List.append_eq_nil_iff.1 h).2 Nat.toDigits_ne_nil
  | cons d ds => exact ⟨d, ds, rfl, isDigit_of_mem_padded (h ▸ List.mem_cons_self)⟩

/-- A digit is no blank. -/
theorem Text.isBlank_of_isDigit {c : Char} (h : c.isDigit = true) : isBlank c = false := by
  have hlow : 48 ≤ c.toNat := by simpa using (Char.isDigit_iff_toNat.1 h).1
  have hhigh : c.toNat ≤ 57 := by simpa using (Char.isDigit_iff_toNat.1 h).2
  unfold isBlank
  simp
  omega

/-- No blanks are dropped before a character that is none. -/
theorem Text.dropBlanks_cons {c : Char} (h : isBlank c = false) (r : List Char) :
    dropBlanks (c :: r) = c :: r := by
  unfold dropBlanks
  rw [List.dropWhile_cons, h]
  rfl

namespace Timestamp

/-- A run of digits is read as its number if it ends with the room or before another character. -/
theorem number?_append {width : Nat} {ds rest : List Char} (hne : ds ≠ [])
    (hall : ∀ d ∈ ds, d.isDigit = true) (hle : ds.length ≤ width)
    (hend : ds.length = width ∨ ∀ c ∈ rest.head?, c.isDigit = false) :
    number? width (ds ++ rest) = some (Numeral.ofDecimal ds, rest) := by
  -- Behind the digits there is no room left, or no digit.
  have hstop : (rest.take (width - ds.length)).takeWhile Char.isDigit = [] := by
    rcases hend with hend | hrest
    · rw [hend, Nat.sub_self, List.take_zero, List.takeWhile_nil]
    · cases hk : width - ds.length with
      | zero => rfl
      | succ k =>
        cases rest with
        | nil => rfl
        | cons c r => rw [List.take_succ_cons, List.takeWhile_cons, hrest c rfl]; rfl
  have htake : ((ds ++ rest).take width).takeWhile Char.isDigit = ds := by
    rw [List.take_append, List.take_of_length_le hle, List.takeWhile_append_of_pos hall, hstop,
      List.append_nil]
  unfold number?
  simp [htake, hne]

/-- A padded number of exactly the width is read back. -/
theorem number?_padded {width n : Nat} (hw : 0 < width) (hn : n < 10 ^ width) (rest : List Char) :
    number? width (Numeral.padded width n ++ rest) = some (n, rest) := by
  have hlen := Numeral.length_padded hw hn
  have hne : Numeral.padded width n ≠ [] := by
    rw [← List.length_pos_iff, hlen]
    exact hw
  rw [number?_append hne (fun _ => Numeral.isDigit_of_mem_padded) (Nat.le_of_eq hlen) (.inl hlen),
    Numeral.ofDecimal_padded]

/-- Two digits are read back. -/
theorem pair?_padded {n : Nat} (hn : n < 100) (rest : List Char) :
    pair? (Numeral.padded 2 n ++ rest) = some (n, rest) := by
  obtain ⟨d, ds, hds, hd⟩ := Numeral.exists_padded_eq_cons 2 n
  have hread := number?_padded (show 0 < 2 by decide) hn rest
  unfold pair?
  rw [hds, List.cons_append] at hread ⊢
  rw [Text.dropBlanks_cons (Text.isBlank_of_isDigit hd), hread]

/-- A separator is read where it stands. -/
theorem after?_cons {c : Char} (h : Text.isBlank c = false) (rest : List Char) :
    after? c (c :: rest) = some rest := by
  unfold after?
  rw [Text.dropBlanks_cons h]
  simp

/-- A year is read back, up to the separator behind it. -/
theorem year?_yearChars (year : Int) (rest : List Char) :
    year? (yearChars year ++ '-' :: rest) = some (year, '-' :: rest) := by
  have hstop : ∀ c ∈ ('-' :: rest).head?, c.isDigit = false := by
    intro c hc
    rw [← Option.some.inj hc]
    decide
  -- Behind a sign the reader takes all digits that there are.
  have hsigned : ∀ n : Nat,
      number? (Numeral.padded 4 n ++ '-' :: rest).length (Numeral.padded 4 n ++ '-' :: rest) =
        some (n, '-' :: rest) := by
    intro n
    obtain ⟨d, ds, hds, -⟩ := Numeral.exists_padded_eq_cons 4 n
    rw [number?_append (by rw [hds]; simp) (fun _ => Numeral.isDigit_of_mem_padded) (by simp)
      (.inr hstop), Numeral.ofDecimal_padded]
  unfold yearChars
  split
  · next h =>
    obtain ⟨d, ds, hds, hd⟩ := Numeral.exists_padded_eq_cons 4 year.toNat
    -- Four digits and no sign: what the reader meets first is a digit.
    have hread := number?_padded (show 0 < 4 by decide) (show year.toNat < 10 ^ 4 by omega)
      ('-' :: rest)
    have hminus : d ≠ '-' := by rintro rfl; exact absurd hd (by decide)
    have hplus : d ≠ '+' := by rintro rfl; exact absurd hd (by decide)
    rw [hds, List.cons_append] at hread ⊢
    unfold year?
    split
    · next heq => exact absurd (List.cons.inj heq).1 hminus
    · next heq => exact absurd (List.cons.inj heq).1 hplus
    · have hvalue : (year.toNat : Int) = year := by omega
      rw [hread, Option.map_some]
      show some ((year.toNat : Int), '-' :: rest) = _
      rw [hvalue]
  · next h =>
    by_cases hneg : year < 0
    · have hvalue : -(year.natAbs : Int) = year := by omega
      rw [if_pos hneg, List.cons_append]
      show (number? _ _).map _ = _
      rw [hsigned, Option.map_some]
      show some (-(year.natAbs : Int), '-' :: rest) = _
      rw [hvalue]
    · have hvalue : (year.natAbs : Int) = year := by omega
      rw [if_neg hneg, List.cons_append]
      show (number? _ _).map _ = _
      rw [hsigned, Option.map_some]
      show some ((year.natAbs : Int), '-' :: rest) = _
      rw [hvalue]

/-- A fraction of a second is read back, whatever number of digits it was written with. -/
theorem fraction?_padded {width n : Nat} (hw : 0 < width) (hle : width ≤ 9) (hn : n < 10 ^ width) :
    fraction? ('.' :: Numeral.padded width n ++ ['Z']) = some (n * 10 ^ (9 - width), ['Z']) := by
  have hlen := Numeral.length_padded hw hn
  have htake : (Numeral.padded width n ++ ['Z']).takeWhile Char.isDigit =
      Numeral.padded width n := by
    rw [List.takeWhile_append_of_pos fun _ => Numeral.isDigit_of_mem_padded]
    show _ ++ [] = _
    rw [List.append_nil]
  have hne : Numeral.padded width n ≠ [] := by
    rw [← List.length_pos_iff, hlen]
    exact hw
  rw [List.cons_append]
  unfold fraction?
  simp only [htake]
  rw [if_neg (by simpa using hne), List.take_of_length_le (by omega), Numeral.ofDecimal_padded,
    List.drop_left, hlen]
  rfl

/-- The fraction of a second is read back. -/
theorem fraction?_fractionChars {nano : Nat} (h : nano < 1000000000) :
    fraction? (fractionChars nano ++ ['Z']) = some (nano, ['Z']) := by
  unfold fractionChars
  split
  · next h0 =>
    rw [h0]
    rfl
  split
  · next h6 =>
    rw [fraction?_padded (by decide) (by decide) (by omega)]
    simp
    omega
  split
  · next h3 =>
    rw [fraction?_padded (by decide) (by decide) (by omega)]
    simp
    omega
  · rw [fraction?_padded (by decide) (by decide) (by omega)]
    simp

/-- Where clocks show Universal Time, the moment is what they show. -/
theorem ofLocal?_zero (t : Timestamp) : ofLocal? t.day t.time 0 = some t := by
  obtain ⟨day, ⟨hour, minute, second, nano⟩, hday, htime⟩ := t
  have hreal := htime
  simp only [DayTime.isReal, Bool.and_eq_true, decide_eq_true_eq] at hreal
  unfold ofLocal?
  have hclock : (((hour : Int) * 60 + minute - 0) % 1440).toNat = hour * 60 + minute := by omega
  have hhour : (hour * 60 + minute) / 60 = hour := by omega
  have hminute : (hour * 60 + minute) % 60 = minute := by omega
  simp only [hclock, hhour, hminute]
  rw [if_neg (by omega), if_neg (by omega)]
  unfold of?
  rw [dif_pos ⟨hday, htime⟩]

/-- A month has at most 31 days. -/
theorem daysIn_le (year : Int) (month : Nat) : daysIn year month ≤ 31 := by
  unfold daysIn
  split
  · split <;> decide
  · split <;> decide

/-- A written year begins with no blank. -/
theorem dropBlanks_yearChars (year : Int) (rest : List Char) :
    Text.dropBlanks (yearChars year ++ rest) = yearChars year ++ rest := by
  obtain ⟨c, cs, hc, hblank⟩ : ∃ c cs, yearChars year = c :: cs ∧ Text.isBlank c = false := by
    unfold yearChars
    split
    · obtain ⟨d, ds, hds, hd⟩ := Numeral.exists_padded_eq_cons 4 year.toNat
      exact ⟨d, ds, hds, Text.isBlank_of_isDigit hd⟩
    · split
      · exact ⟨_, _, rfl, by decide⟩
      · exact ⟨_, _, rfl, by decide⟩
  rw [hc, List.cons_append, Text.dropBlanks_cons hblank]

/-- What is written of a timestamp is read back. -/
theorem parse?_text (t : Timestamp) : parse? t.text = some t := by
  have hday := t.day_isReal
  have htime := t.time_isReal
  simp only [CalendarDay.isReal, Bool.and_eq_true, decide_eq_true_eq] at hday
  simp only [DayTime.isReal, Bool.and_eq_true, decide_eq_true_eq] at htime
  have hdays := daysIn_le t.day.year t.day.month
  have hchars : t.text.toList = yearChars t.day.year ++ '-' :: (Numeral.padded 2 t.day.month ++
      '-' :: (Numeral.padded 2 t.day.day ++ 'T' :: (Numeral.padded 2 t.time.hour ++
      ':' :: (Numeral.padded 2 t.time.minute ++ ':' :: (Numeral.padded 2 t.time.second ++
      (fractionChars t.time.nano ++ ['Z'])))))) := by
    unfold text chars
    simp
  have hminus : Text.isBlank '-' = false := by decide
  have hcolon : Text.isBlank ':' = false := by decide
  unfold parse?
  rw [hchars, dropBlanks_yearChars]
  -- The parts are read one after the other, each from where the one before it has ended.
  rw [year?_yearChars]
  dsimp only [Option.bind_eq_bind, Option.bind_some]
  rw [after?_cons hminus]
  dsimp only [Option.bind_eq_bind, Option.bind_some]
  rw [pair?_padded (show t.day.month < 100 by omega)]
  dsimp only [Option.bind_eq_bind, Option.bind_some]
  rw [after?_cons hminus]
  dsimp only [Option.bind_eq_bind, Option.bind_some]
  rw [pair?_padded (show t.day.day < 100 by omega)]
  dsimp only [Option.bind_eq_bind, Option.bind_some]
  rw [if_pos (.inl rfl)]
  rw [pair?_padded (show t.time.hour < 100 by omega)]
  dsimp only [Option.bind_eq_bind, Option.bind_some]
  rw [after?_cons hcolon]
  dsimp only [Option.bind_eq_bind, Option.bind_some]
  rw [pair?_padded (show t.time.minute < 100 by omega)]
  dsimp only [Option.bind_eq_bind, Option.bind_some]
  rw [after?_cons hcolon]
  dsimp only [Option.bind_eq_bind, Option.bind_some]
  rw [pair?_padded (show t.time.second < 100 by omega)]
  dsimp only [Option.bind_eq_bind, Option.bind_some]
  rw [fraction?_fractionChars (show t.time.nano < 1000000000 by omega)]
  dsimp only [Option.bind_eq_bind, Option.bind_some]
  show (if Text.dropBlanks [] ≠ [] then none
    else if DayTime.isReal t.time && CalendarDay.isReal t.day then ofLocal? t.day t.time 0
    else none) = some t
  rw [if_neg (by decide), t.day_isReal, t.time_isReal, ofLocal?_zero]
  rfl

end Timestamp

end AlertSync
