import AlertSync.Duration
import Mathlib.Order.Defs.LinearOrder

/-!
# Reading back written durations

What `Duration.text` writes of a duration in whole milliseconds that 64 bits hold, `Duration.parse?`
reads as the same duration (`parse?_text`). The text consists of the parts that `counts` takes off
the milliseconds, from the longest scale to the shortest: the reader finds these parts
(`parts?_flatMap_chars`), finds them in order (`descending_counts`), and adds them up to what they
were taken off (`total?_counts`).
-/

namespace AlertSync

/-- The letters of a scale are read as that scale, before the end and before a digit. -/
theorem TimeScale.read?_letters (scale : TimeScale) {r : List Char}
    (hr : ∀ c ∈ r.head?, c.isDigit = true) : read? (scale.letters ++ r) = some (scale, r) := by
  cases scale with
  | years | weeks | days | hours | seconds | millis => rfl
  | minutes =>
    -- Of the scales only this one is the beginning of another.
    cases r with
    | nil => rfl
    | cons c r =>
      have hdigit := hr c rfl
      show read? ('m' :: c :: r) = _
      unfold read?
      split <;> simp_all

namespace Duration

/-- A part as it is written. -/
def Part.chars (p : Part) : List Char := p.digits ++ p.scale.letters

/-- The parts in which a number of milliseconds is written. -/
def counts (ms : Nat) : List TimeScale → List Part
  | [] => []
  | scale :: rest =>
    if scale.length ≤ ms then
      ⟨Numeral.decimal (ms / scale.length), scale⟩ :: counts (ms % scale.length) rest
    else counts ms rest

/-- The text of a number of milliseconds is that of its parts. -/
theorem partsOf_eq_flatMap (ms : Nat) (scales : List TimeScale) :
    partsOf ms scales = (counts ms scales).flatMap Part.chars := by
  induction scales generalizing ms with
  | nil => rfl
  | cons scale rest ih =>
    rw [partsOf, counts]
    split
    · rw [List.flatMap_cons, ih, Part.chars]
    · exact ih ms

/-! ## Finding the parts -/

/-- Whether a part has a count, in digits. -/
def Part.IsCount (p : Part) : Prop := p.digits ≠ [] ∧ ∀ c ∈ p.digits, c.isDigit = true

/-- Every part of a number of milliseconds has a count. -/
theorem isCount_of_mem_counts {ms : Nat} {scales : List TimeScale} {p : Part}
    (h : p ∈ counts ms scales) : p.IsCount := by
  induction scales generalizing ms with
  | nil => cases h
  | cons scale rest ih =>
    rw [counts] at h
    split at h
    · rcases List.mem_cons.1 h with rfl | h
      · exact ⟨Nat.toDigits_ne_nil, fun c hc => Numeral.isDigit_of_mem_decimal hc⟩
      · exact ih h
    · exact ih h

/-- Written parts begin with a digit, if there are any. -/
theorem head?_flatMap_chars {ps : List Part} (h : ∀ p ∈ ps, p.IsCount) :
    ∀ c ∈ (ps.flatMap Part.chars).head?, c.isDigit = true := by
  intro c hc
  cases ps with
  | nil => cases hc
  | cons p ps =>
    obtain ⟨hne, hdigits⟩ := h p List.mem_cons_self
    obtain ⟨d, ds, hds⟩ := List.exists_cons_of_ne_nil hne
    rw [List.flatMap_cons, Part.chars, hds] at hc
    obtain rfl : d = c := Option.some.inj hc
    exact hdigits d (hds ▸ List.mem_cons_self)

/-- A scale begins with a letter. -/
theorem TimeScale.exists_letters (scale : TimeScale) :
    ∃ c cs, scale.letters = c :: cs ∧ c.isDigit = false := by
  cases scale <;> exact ⟨_, _, rfl, by decide⟩

/-- Written parts are found in the text again. -/
theorem parts?_flatMap_chars {ps : List Part} (h : ∀ p ∈ ps, p.IsCount) :
    parts? (ps.flatMap Part.chars) = some ps := by
  induction ps with
  | nil =>
    rw [parts?]
    rfl
  | cons p ps ih =>
    have hrest : ∀ q ∈ ps, q.IsCount := fun q hq => h q (List.mem_cons_of_mem p hq)
    obtain ⟨hne, hdigits⟩ := h p List.mem_cons_self
    obtain ⟨c, cs, hletters, hc⟩ := TimeScale.exists_letters p.scale
    -- The digits end where the letters of the scale begin.
    have htext : (p :: ps).flatMap Part.chars =
        p.digits ++ (p.scale.letters ++ ps.flatMap Part.chars) := by
      rw [List.flatMap_cons, Part.chars, List.append_assoc]
    have htake : ((p :: ps).flatMap Part.chars).takeWhile Char.isDigit = p.digits := by
      rw [htext, List.takeWhile_append_of_pos hdigits, hletters, List.cons_append,
        List.takeWhile_cons_of_neg (by simp [hc]), List.append_nil]
    have hdrop : ((p :: ps).flatMap Part.chars).dropWhile Char.isDigit =
        p.scale.letters ++ ps.flatMap Part.chars := by
      rw [htext, List.dropWhile_append_of_pos hdigits, hletters, List.cons_append,
        List.dropWhile_cons_of_neg (by simp [hc])]
    have hread := p.scale.read?_letters (head?_flatMap_chars hrest)
    have hnonempty : ((p :: ps).flatMap Part.chars).isEmpty = false := by
      rw [htext]
      simp [hne]
    rw [parts?, hnonempty]
    simp only [Bool.false_eq_true, if_false, htake]
    rw [if_neg (by simpa using hne)]
    split
    · next hnone =>
      rw [hdrop, hread] at hnone
      cases hnone
    · next scale r hsome =>
      rw [hdrop, hread] at hsome
      obtain ⟨rfl, rfl⟩ := Prod.mk.inj (Option.some.inj hsome)
      rw [ih hrest]
      rfl

/-! ## Their order -/

/-- The scales of the parts are among those that were asked for. -/
theorem scale_mem_of_mem_counts {ms : Nat} {scales : List TimeScale} {p : Part}
    (h : p ∈ counts ms scales) : p.scale ∈ scales := by
  induction scales generalizing ms with
  | nil => cases h
  | cons scale rest ih =>
    rw [counts] at h
    split at h
    · rcases List.mem_cons.1 h with rfl | h
      · exact List.mem_cons_self
      · exact List.mem_cons_of_mem _ (ih h)
    · exact List.mem_cons_of_mem _ (ih h)

/-- Taken off from the longest scale to the shortest, parts are in order. -/
theorem descending_counts (ms : Nat) {scales : List TimeScale}
    (h : scales.Pairwise fun s t => t.length < s.length) :
    descending (counts ms scales) = true := by
  induction scales generalizing ms with
  | nil => rfl
  | cons scale rest ih =>
    obtain ⟨hlonger, hrest⟩ := List.pairwise_cons.1 h
    rw [counts]
    split
    · cases hcounts : counts (ms % scale.length) rest with
      | nil => rfl
      | cons q qs =>
        have hq : q.scale ∈ rest := scale_mem_of_mem_counts (hcounts ▸ List.mem_cons_self)
        have ih' := ih (ms % scale.length) hrest
        rw [hcounts] at ih'
        rw [descending, ih', decide_eq_true (hlonger q.scale hq)]
        rfl
    · exact ih ms hrest

/-! ## Their sum -/

/-- What is left of a number of milliseconds when as much as fits was taken off in each scale. -/
def left (ms : Nat) (scales : List TimeScale) : Nat :=
  scales.foldl (fun n scale => n % scale.length) ms

/-- No more is left than there was. -/
theorem left_le (ms : Nat) (scales : List TimeScale) : left ms scales ≤ ms := by
  induction scales generalizing ms with
  | nil => exact Nat.le_refl ms
  | cons scale rest ih => exact Nat.le_trans (ih (ms % scale.length)) (Nat.mod_le ms scale.length)

/-- The sum with one more part, if 64 bits hold its count, its length and the sum. -/
def add? (sum : Nat) (p : Part) : Option Nat := do
  let count ← word? (Numeral.ofDecimal p.digits)
  let length ← word? (count * p.scale.length)
  word? (sum + length)

/-- The parts of a number of milliseconds add up to what was taken off. -/
theorem foldlM_counts {ms : Nat} {scales : List TimeScale} {sum : Nat}
    (h : sum + ms < UInt64.size) :
    (counts ms scales).foldlM add? sum = some (sum + (ms - left ms scales)) := by
  induction scales generalizing ms sum with
  | nil =>
    show some sum = some (sum + (ms - ms))
    rw [Nat.sub_self, Nat.add_zero]
  | cons scale rest ih =>
    have hleft : left ms (scale :: rest) = left (ms % scale.length) rest := rfl
    have hsplit : ms / scale.length * scale.length + ms % scale.length = ms := by
      rw [Nat.mul_comm]
      exact Nat.div_add_mod ms scale.length
    rw [counts, hleft]
    split
    · have hcount : ms / scale.length ≤ ms := Nat.div_le_self ms scale.length
      have hle := left_le (ms % scale.length) rest
      have hword {n : Nat} (hn : n < UInt64.size) : word? n = some n := if_pos hn
      have hadd : add? sum ⟨Numeral.decimal (ms / scale.length), scale⟩ =
          some (sum + ms / scale.length * scale.length) := by
        unfold add?
        simp only [Numeral.ofDecimal_decimal, Option.bind_eq_bind]
        rw [hword (by omega), Option.bind_some, hword (by omega), Option.bind_some,
          hword (by omega)]
      rw [List.foldlM_cons, hadd, Option.bind_eq_bind, Option.bind_some, ih (by omega)]
      congr 1
      omega
    · next hlt =>
      -- A scale that does not fit leaves all of it.
      rw [Nat.mod_eq_of_lt (by omega)]
      exact ih h

/-- The parts of a number of milliseconds in all scales add up to it. -/
theorem total?_counts {ms : Nat} (h : ms < UInt64.size) :
    total? (counts ms TimeScale.all) = some ms := by
  have hnone : left ms TimeScale.all = 0 := Nat.mod_one _
  show (counts ms TimeScale.all).foldlM add? 0 = some ms
  rw [foldlM_counts (by omega), hnone]
  simp

/-! ## The whole text -/

/-- Whether a duration is a number of milliseconds that 64 bits hold. -/
def IsWhole (d : Duration) : Prop := ∃ ms < UInt64.size, d = ofMillis ms

/-- A number of milliseconds has parts unless it is zero. -/
theorem counts_ne_nil {ms : Nat} (h : ms ≠ 0) : counts ms TimeScale.all ≠ [] := by
  intro hnil
  have hsum : left ms TimeScale.all = 0 := Nat.mod_one _
  have hkept : ∀ (scales : List TimeScale) {n : Nat}, counts n scales = [] → left n scales = n := by
    intro scales
    induction scales with
    | nil => exact fun _ => rfl
    | cons scale rest ih =>
      intro n hn
      rw [counts] at hn
      split at hn
      · cases hn
      · next hlt =>
        show left (n % scale.length) rest = n
        rw [Nat.mod_eq_of_lt (by omega)]
        exact ih hn
  exact h ((hkept _ hnil).symm.trans hsum)

/-- A text of parts in order is read as their sum, if 64 bits hold it. -/
theorem parse?_flatMap_chars {ps : List Part} (hcount : ∀ p ∈ ps, p.IsCount) (hne : ps ≠ [])
    (horder : descending ps = true) :
    parse? (String.ofList (ps.flatMap Part.chars)) = (total? ps).map ofMillis := by
  have hparts := parts?_flatMap_chars hcount
  -- The two texts that are treated apart do not consist of parts.
  have hzero : String.ofList (ps.flatMap Part.chars) ≠ "0" := by
    intro h
    rw [← String.toList_inj, String.toList_ofList] at h
    have hnone : parts? ['0'] = none := by
      rw [parts?]
      rfl
    rw [h] at hparts
    exact absurd (hnone.symm.trans hparts) nofun
  have hempty : String.ofList (ps.flatMap Part.chars) ≠ "" := by
    intro h
    rw [← String.toList_inj, String.toList_ofList] at h
    have hnil : parts? [] = some [] := by
      rw [parts?]
      rfl
    rw [h] at hparts
    exact hne (Option.some.inj (hnil.symm.trans hparts)).symm
  unfold parse? parse
  rw [if_neg hzero, if_neg hempty, String.toList_ofList, hparts]
  dsimp only
  rw [if_pos horder]
  cases total? ps <;> rfl

/-- A written duration in whole milliseconds is read as itself. -/
theorem parse?_text {d : Duration} (h : d.IsWhole) : parse? d.text = some d := by
  obtain ⟨ms, hms, rfl⟩ := h
  have hmillis : (ofMillis ms).millis % UInt64.size = ms := by
    show ms * 1000000 / 1000000 % UInt64.size = ms
    rw [Nat.mul_div_cancel ms (by decide), Nat.mod_eq_of_lt hms]
  unfold text
  rw [hmillis]
  by_cases hzero : ms = 0
  · subst hzero
    -- No time at all is written as a count of zero seconds.
    have hone : ∀ p ∈ [Part.mk ['0'] .seconds], p.IsCount := by
      intro p hp
      obtain rfl := List.mem_singleton.1 hp
      exact ⟨by decide, List.all_eq_true.1 (by decide)⟩
    exact parse?_flatMap_chars hone (by decide) rfl
  · dsimp only
    rw [if_neg hzero, partsOf_eq_flatMap, parse?_flatMap_chars (fun p => isCount_of_mem_counts)
      (counts_ne_nil hzero) (descending_counts ms (by decide)), total?_counts hms]
    rfl

/-! ## Which durations are whole -/

/-- A sum of parts that fit a word fits it. -/
theorem lt_of_foldlM_add? {ps : List Part} {sum total : Nat} (hsum : sum < UInt64.size)
    (h : ps.foldlM add? sum = some total) : total < UInt64.size := by
  induction ps generalizing sum with
  | nil =>
    obtain rfl := Option.some.inj h
    exact hsum
  | cons p ps ih =>
    obtain ⟨more, hmore, hrest⟩ := Option.bind_eq_some_iff.1 h
    obtain ⟨_, _, hmore⟩ := Option.bind_eq_some_iff.1 hmore
    obtain ⟨_, _, hword⟩ := Option.bind_eq_some_iff.1 hmore
    unfold word? at hword
    split at hword
    · next hlt =>
      obtain rfl := Option.some.inj hword
      exact ih hlt hrest
    · cases hword

/-- What is read as a duration is a whole number of milliseconds. -/
theorem isWhole_of_parse? {s : String} {d : Duration} (h : parse? s = some d) : d.IsWhole := by
  unfold parse? parse at h
  split at h
  · exact ⟨0, by decide, (Option.some.inj h).symm⟩
  split at h
  · cases h
  split at h
  · cases h
  split at h
  · split at h
    · next ms hms =>
      exact ⟨ms, lt_of_foldlM_add? (by decide) hms, (Option.some.inj h).symm⟩
    · cases h
  · cases h

/-- Seconds are whole milliseconds. -/
theorem isWhole_ofSeconds {n : Nat} (h : n * 1000 < UInt64.size) : (ofSeconds n).IsWhole := by
  refine ⟨n * 1000, h, ?_⟩
  unfold ofSeconds ofMillis
  rw [Nat.mul_assoc]

end Duration

end AlertSync
