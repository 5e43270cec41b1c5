import AlertSync.Proofs.Duration
import Mathlib.Data.List.Chain
import Mathlib.Data.List.Sort
import Mathlib.Data.List.TakeWhile

/-!
# Which texts are durations

`Duration.parse` is compared with the notation itself: a text is written with some parts
(`IsWritten`) if it consists of them, one at least, each with digits before the letters of its
scale, and their scales come in order, each at most once. It then denotes the sum of its parts over
all natural numbers (`Denotes`). The reader finds the parts if there are any
(`parts?_eq_some_iff`), accepts them in that order alone (`descending_iff_sublist`), and its sum,
checked at each step, is the exact sum or nothing (`total?_eq`). So a text is accepted exactly if it
denotes a number of milliseconds that 64 bits hold, and is read as that number
(`parse_eq_ok_iff_denotes`).
-/

namespace AlertSync

/-- What is read as a scale are its letters. -/
theorem TimeScale.eq_of_read? {cs r : List Char} {scale : TimeScale}
    (h : read? cs = some (scale, r)) : cs = scale.letters ++ r := by
  unfold read? at h
  split at h <;> simp only [Option.some.injEq, Prod.mk.injEq, reduceCtorEq] at h <;>
    (obtain ⟨rfl, rfl⟩ := h; rfl)

/-- The scales in order, from the longest to the shortest. -/
theorem TimeScale.pairwise_all : all.Pairwise fun s t => t.length < s.length := by decide

theorem TimeScale.mem_all (scale : TimeScale) : scale ∈ all := by
  cases scale <;> decide

/-- No scale is without length. -/
theorem TimeScale.length_pos (scale : TimeScale) : 0 < scale.length := by
  cases scale <;> decide

namespace Duration

/-! ## The notation -/

/-- The milliseconds that a part counts. -/
def Part.millis (p : Part) : Nat := Numeral.ofDecimal p.digits * p.scale.length

/-- The milliseconds that some parts count together. -/
def sum : List Part → Nat
  | [] => 0
  | p :: ps => p.millis + sum ps

theorem sum_append (ps qs : List Part) : sum (ps ++ qs) = sum ps + sum qs := by
  induction ps with
  | nil => exact (Nat.zero_add _).symm
  | cons p ps ih =>
    rw [List.cons_append, sum, sum, ih, Nat.add_assoc]

/-- Whether a text is written with some parts. -/
structure IsWritten (s : String) (ps : List Part) : Prop where
  text : s.toList = ps.flatMap Part.chars
  ne_nil : ps ≠ []
  counts : ∀ p ∈ ps, p.IsCount
  /-- Each scale occurs at most once, the longer before the shorter. -/
  order : (ps.map Part.scale).Sublist TimeScale.all

/-- Which number of milliseconds a text denotes. -/
inductive Denotes (s : String) : Nat → Prop
  | zero (h : s = "0") : Denotes s 0
  | parts {ps : List Part} (h : IsWritten s ps) : Denotes s (sum ps)

/-! ## Finding the parts -/

/-- Finding parts ends at once, or with a count and a scale at the head of the text and the parts of
what follows. -/
theorem parts?_cases {cs : List Char} {ps : List Part} (h : parts? cs = some ps) :
    (cs = [] ∧ ps = []) ∨
      ∃ p ps' rest, p.IsCount ∧ cs = p.chars ++ rest ∧ parts? rest = some ps' ∧ ps = p :: ps' := by
  rw [parts?] at h
  split at h
  · next hempty => exact .inl ⟨List.isEmpty_iff.1 hempty, (Option.some.inj h).symm⟩
  · dsimp only at h
    split at h
    · cases h
    · next hdigits =>
      split at h
      · cases h
      · next scale rest hread =>
        obtain ⟨ps', hps', hps⟩ := Option.map_eq_some_iff.1 h
        have hne : cs.takeWhile Char.isDigit ≠ [] := by
          rwa [Ne, ← List.isEmpty_iff]
        -- The digits and what is read as the scale are the head of the text.
        have hcs : cs = cs.takeWhile Char.isDigit ++ (scale.letters ++ rest) := by
          rw [← TimeScale.eq_of_read? hread, List.takeWhile_append_dropWhile]
        refine .inr ⟨⟨cs.takeWhile Char.isDigit, scale⟩, ps', rest,
          ⟨hne, fun c hc => List.mem_takeWhile_imp hc⟩, ?_, hps', hps.symm⟩
        rw [Part.chars, List.append_assoc]
        exact hcs

/-- The parts that are found are those of which the text consists. -/
theorem parts?_eq_some_iff {cs : List Char} {ps : List Part} :
    parts? cs = some ps ↔ cs = ps.flatMap Part.chars ∧ ∀ p ∈ ps, p.IsCount := by
  constructor
  · intro h
    induction ps generalizing cs with
    | nil =>
      obtain ⟨rfl, -⟩ | ⟨_, _, _, _, _, _, hne⟩ := parts?_cases h
      · exact ⟨rfl, fun p hp => nomatch hp⟩
      · cases hne
    | cons p ps ih =>
      obtain ⟨-, hnil⟩ | ⟨q, qs, rest, hcount, rfl, hrest, heq⟩ := parts?_cases h
      · cases hnil
      · obtain ⟨rfl, rfl⟩ := List.cons.inj heq
        obtain ⟨htext, hcounts⟩ := ih hrest
        exact ⟨by rw [List.flatMap_cons, ← htext], List.forall_mem_cons.2 ⟨hcount, hcounts⟩⟩
  · rintro ⟨rfl, hcount⟩
    exact parts?_flatMap_chars hcount

/-! ## Their order -/

/-- Scales that become shorter and shorter are some of all scales, in their order. -/
theorem sublist_all_of_pairwise {scales : List TimeScale}
    (h : scales.Pairwise fun s t => t.length < s.length) : scales.Sublist TimeScale.all := by
  -- No scale is shorter than itself, so there is none twice.
  have hnodup : scales.Nodup := h.imp fun hlt heq => absurd (heq ▸ hlt) (Nat.lt_irrefl _)
  have hall : scales.Subperm TimeScale.all :=
    List.subperm_of_subset hnodup fun s _ => s.mem_all
  have hantisymm : Std.Antisymm fun s t : TimeScale => t.length < s.length :=
    ⟨fun _ _ hst hts => absurd hst (Nat.lt_asymm hts)⟩
  exact List.sublist_of_subperm_of_pairwise hall h TimeScale.pairwise_all

/-- Parts are in order if each scale is longer than the next. -/
theorem descending_iff_isChain {ps : List Part} :
    descending ps = true ↔ (ps.map Part.scale).IsChain fun s t => t.length < s.length := by
  induction ps with
  | nil => exact iff_of_true rfl List.isChain_nil
  | cons p ps ih =>
    cases ps with
    | nil => exact iff_of_true rfl (List.isChain_singleton _)
    | cons q ps =>
      rw [descending, Bool.and_eq_true, decide_eq_true_iff, ih]
      simp only [List.map_cons, List.isChain_cons_cons]

/-- Parts are in order if their scales are some of all scales, in their order. -/
theorem descending_iff_sublist {ps : List Part} :
    descending ps = true ↔ (ps.map Part.scale).Sublist TimeScale.all := by
  rw [descending_iff_isChain]
  constructor
  · intro h
    have htrans : IsTrans TimeScale fun s t => t.length < s.length :=
      ⟨fun _ _ _ hst htu => Nat.lt_trans htu hst⟩
    exact sublist_all_of_pairwise (List.isChain_iff_pairwise.1 h)
  · intro h
    exact (TimeScale.pairwise_all.sublist h).isChain

/-! ## Their sum -/

/-- With one more part the sum is that much longer, if 64 bits hold it. -/
theorem add?_eq (total : Nat) (p : Part) : add? total p = word? (total + p.millis) := by
  have hscale := p.scale.length_pos
  have hcount : Numeral.ofDecimal p.digits ≤ p.millis := Nat.le_mul_of_pos_right _ hscale
  have hadd : add? total p = (word? (Numeral.ofDecimal p.digits)).bind fun count =>
      (word? (count * p.scale.length)).bind fun more => word? (total + more) := rfl
  rw [hadd]
  unfold word?
  split
  · rw [Option.bind_some]
    show (if p.millis < UInt64.size then some p.millis else none).bind _ = _
    split
    · rfl
    · rw [if_neg (by omega)]
      rfl
  · rw [if_neg (by omega)]
    rfl

/-- Adding up parts with a check of 64 bits at every step gives the exact sum, if 64 bits hold it,
and nothing otherwise. -/
theorem foldlM_add?_eq {total : Nat} (h : total < UInt64.size) (ps : List Part) :
    ps.foldlM add? total = word? (total + sum ps) := by
  induction ps generalizing total with
  | nil => exact (if_pos h).symm
  | cons p ps ih =>
    have hsum : sum (p :: ps) = p.millis + sum ps := rfl
    rw [List.foldlM_cons, add?_eq, hsum, ← Nat.add_assoc]
    by_cases hlt : total + p.millis < UInt64.size
    · have hword : word? (total + p.millis) = some (total + p.millis) := if_pos hlt
      rw [hword]
      exact ih hlt
    · have hword : word? (total + p.millis) = none := if_neg hlt
      have hmore : word? (total + p.millis + sum ps) = none := if_neg (by omega)
      rw [hword, hmore]
      rfl

/-- The total of some parts is their exact sum, if 64 bits hold it. -/
theorem total?_eq (ps : List Part) : total? ps = word? (sum ps) := by
  have h := foldlM_add?_eq (by decide : 0 < UInt64.size) ps
  rwa [Nat.zero_add] at h

/-! ## Whether a text is a duration -/

/-- A text has at most one list of parts with which it is written. -/
theorem IsWritten.unique {s : String} {ps qs : List Part} (hps : IsWritten s ps)
    (hqs : IsWritten s qs) : ps = qs := by
  have hfound := parts?_eq_some_iff.2 ⟨hps.text, hps.counts⟩
  rw [parts?_eq_some_iff.2 ⟨hqs.text, hqs.counts⟩] at hfound
  exact (Option.some.inj hfound).symm

/-- What is written with parts is neither empty nor a count without a scale. -/
theorem IsWritten.ne {s : String} {ps : List Part} (h : IsWritten s ps) : s ≠ "" ∧ s ≠ "0" := by
  have hfound := parts?_eq_some_iff.2 ⟨h.text, h.counts⟩
  constructor
  · rintro rfl
    exact h.ne_nil (Option.some.inj (hfound.symm.trans (by rw [parts?]; rfl)))
  · rintro rfl
    have hnone : parts? "0".toList = none := by
      rw [parts?]
      rfl
    rw [hnone] at hfound
    cases hfound

/-- A text denotes one number of milliseconds at most. -/
theorem Denotes.unique {s : String} {ms ms' : Nat} (h : Denotes s ms) (h' : Denotes s ms') :
    ms = ms' := by
  cases h with
  | zero hzero =>
    cases h' with
    | zero => rfl
    | parts hps => exact absurd hzero hps.ne.2
  | parts hps =>
    cases h' with
    | zero hzero => exact absurd hzero hps.ne.2
    | parts hps' => rw [hps.unique hps']

/-- Of a text that is written with parts the reading is their sum, if 64 bits hold it. -/
theorem parse_of_isWritten {s : String} {ps : List Part} (h : IsWritten s ps) :
    parse s = if sum ps < UInt64.size then .ok (ofMillis (sum ps))
      else .error (.invalid (.durationOutOfRange s)) := by
  obtain ⟨hempty, hzero⟩ := h.ne
  have hfound := parts?_eq_some_iff.2 ⟨h.text, h.counts⟩
  have horder := descending_iff_sublist.2 h.order
  unfold parse
  rw [if_neg hzero, if_neg hempty, hfound]
  dsimp only
  rw [if_pos horder, total?_eq]
  by_cases hlt : sum ps < UInt64.size
  · have hword : word? (sum ps) = some (sum ps) := if_pos hlt
    rw [hword, if_pos hlt]
  · have hword : word? (sum ps) = none := if_neg hlt
    rw [hword, if_neg hlt]

/-- A text that is neither `0` nor written with parts is no duration. -/
theorem parse_of_not_isWritten {s : String} (hzero : s ≠ "0") (h : ∀ ps, ¬ IsWritten s ps) :
    parse s = .error (.invalid (if s = "" then .emptyDuration else .notADuration s)) := by
  unfold parse
  rw [if_neg hzero]
  split
  · rfl
  · next hempty =>
    split
    · rfl
    · next ps hparts =>
      obtain ⟨htext, hcounts⟩ := parts?_eq_some_iff.1 hparts
      -- The only thing that is missing is the order.
      rw [if_neg]
      intro horder
      refine h ps ⟨htext, ?_, hcounts, descending_iff_sublist.1 horder⟩
      rintro rfl
      exact hempty (String.toList_inj.1 htext)

/-- The number of milliseconds that a text denotes is read as such, if 64 bits hold it. -/
theorem parse_of_denotes {s : String} {ms : Nat} (h : Denotes s ms) :
    parse s = if ms < UInt64.size then .ok (ofMillis ms)
      else .error (.invalid (.durationOutOfRange s)) := by
  cases h with
  | zero hzero =>
    subst hzero
    rfl
  | parts hwritten => exact parse_of_isWritten hwritten

/-- A text that denotes nothing is no duration. -/
theorem parse_of_not_denotes {s : String} (h : ¬ ∃ ms, Denotes s ms) :
    parse s = .error (.invalid (if s = "" then .emptyDuration else .notADuration s)) :=
  parse_of_not_isWritten (fun hzero => h ⟨0, .zero hzero⟩) fun _ hps => h ⟨_, .parts hps⟩

/-- A text is read as a duration if it denotes a number of milliseconds that 64 bits hold, and not
otherwise. -/
theorem parse_eq_ok_iff {s : String} {d : Duration} :
    parse s = .ok d ↔ ∃ ms < UInt64.size, Denotes s ms ∧ d = ofMillis ms := by
  constructor
  · intro h
    by_cases hdenotes : ∃ ms, Denotes s ms
    · obtain ⟨ms, hms⟩ := hdenotes
      rw [parse_of_denotes hms] at h
      split at h
      · next hlt => exact ⟨ms, hlt, hms, (Except.ok.inj h).symm⟩
      · cases h
    · rw [parse_of_not_denotes hdenotes] at h
      cases h
  · rintro ⟨ms, hlt, hms, rfl⟩
    rw [parse_of_denotes hms, if_pos hlt]

/-- Whatever is refused as a duration is invalid. -/
theorem family_of_parse_eq_error {s : String} {e : Error} (h : parse s = .error e) :
    e.family = .validation := by
  by_cases hdenotes : ∃ ms, Denotes s ms
  · obtain ⟨ms, hms⟩ := hdenotes
    rw [parse_of_denotes hms] at h
    split at h
    · cases h
    · obtain rfl := Except.error.inj h
      rfl
  · rw [parse_of_not_denotes hdenotes] at h
    obtain rfl := Except.error.inj h
    rfl

/-- Whether 64 bits hold all that comes up where some parts are added up: where the sum goes beyond
a part, they hold its count, its milliseconds and the sum, which is exact. -/
def AddsExactly (ps : List Part) : Prop :=
  ∀ earlier p, earlier ++ [p] <+: ps → ∀ total, total? (earlier ++ [p]) = some total →
    Numeral.ofDecimal p.digits < UInt64.size ∧ p.millis < UInt64.size ∧ total < UInt64.size ∧
      total = sum (earlier ++ [p])

/-- Sums of parts are exact at each step. -/
theorem addsExactly (ps : List Part) : AddsExactly ps := by
  intro earlier p _ total htotal
  rw [total?_eq] at htotal
  unfold word? at htotal
  split at htotal
  · next hlt =>
    obtain rfl := Option.some.inj htotal
    have hsum : sum (earlier ++ [p]) = sum earlier + p.millis := sum_append earlier [p]
    have hcount : Numeral.ofDecimal p.digits ≤ p.millis :=
      Nat.le_mul_of_pos_right _ p.scale.length_pos
    exact ⟨by omega, by omega, hlt, rfl⟩
  · cases htotal

/-- A text is read as a duration exactly if it denotes a number of milliseconds that 64 bits hold,
and as that number; otherwise it is refused as invalid. Adding up its parts stays within 64 bits
at each step. -/
theorem parse_eq_ok_iff_denotes (s : String) :
    (∀ d, parse s = .ok d ↔ ∃ ms < UInt64.size, Denotes s ms ∧ d = ofMillis ms) ∧
    (∀ e, parse s = .error e → e.family = .validation) ∧
    ∀ ps, IsWritten s ps → AddsExactly ps :=
  ⟨fun _ => parse_eq_ok_iff, fun _ => family_of_parse_eq_error, fun ps _ => addsExactly ps⟩

/-- An hour and as many milliseconds as 64 bits hold: each can be counted, but not both. -/
def anHourTooLong : String := "1h18446744073709551615ms"

/-- The parts of that text. -/
def anHourTooLongParts : List Part :=
  [⟨['1'], .hours⟩, ⟨"18446744073709551615".toList, .millis⟩]

theorem isWritten_anHourTooLong : IsWritten anHourTooLong anHourTooLongParts where
  text := by decide
  ne_nil := by decide
  counts := List.forall_mem_cons.2 ⟨⟨by decide, List.all_eq_true.1 (by decide)⟩,
    List.forall_mem_singleton.2 ⟨by decide, List.all_eq_true.1 (by decide)⟩⟩
  order := by decide

/-- It is refused as invalid, and of its parts only the hour is added. -/
theorem parse_eq_ok_iff_denotes_anHourTooLong :
    (∀ d, parse anHourTooLong ≠ .ok d) ∧
    (Error.invalid (.durationOutOfRange anHourTooLong)).family = .validation ∧
    1 < UInt64.size ∧ 3600000 < UInt64.size ∧ 3600000 = sum [⟨['1'], .hours⟩] := by
  obtain ⟨haccepted, hrefused, hadds⟩ := parse_eq_ok_iff_denotes anHourTooLong
  have herror : parse anHourTooLong = .error (.invalid (.durationOutOfRange anHourTooLong)) := by
    rw [parse_of_isWritten isWritten_anHourTooLong, if_neg (by decide)]
  have hhour := hadds _ isWritten_anHourTooLong [] ⟨['1'], .hours⟩
    ⟨[⟨"18446744073709551615".toList, .millis⟩], rfl⟩ 3600000 (by decide)
  refine ⟨fun d hd => ?_, hrefused _ herror, hhour.1, hhour.2.1, hhour.2.2.2⟩
  obtain ⟨_, hlt, hdenotes, -⟩ := (haccepted d).1 hd
  have hrange := parse_of_denotes hdenotes
  rw [herror, if_pos hlt] at hrange
  cases hrange

end Duration

end AlertSync
