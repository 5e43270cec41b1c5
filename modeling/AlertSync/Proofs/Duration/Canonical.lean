import AlertSync.Proofs.Duration.Grammar

/-!
# The one text of a duration

Every duration is written as a text that is read as its whole milliseconds, cut to 64 bits
(`parse_text`). Durations that are read are whole, so of two texts that are read the durations are
the same exactly if they are written the same (`text_eq_iff_denotes`), and a text that was read and
written once stays as it is (`rewritten?_succ`).
-/

namespace AlertSync.Duration

/-- Of a number of milliseconds, the whole milliseconds are the number. -/
@[simp] theorem millis_ofMillis (ms : Nat) : (ofMillis ms).millis = ms :=
  Nat.mul_div_cancel ms (by decide)

/-- A duration is written as its whole milliseconds are, as far as 64 bits hold them. -/
theorem text_ofMillis_mod (d : Duration) : (ofMillis (d.millis % UInt64.size)).text = d.text := by
  unfold text
  rw [millis_ofMillis, Nat.mod_mod]

/-- Reading with nothing for what is refused, and reading with an error for it. -/
theorem parse?_eq_some_iff {s : String} {d : Duration} : parse? s = some d ↔ parse s = .ok d := by
  unfold parse?
  cases parse s with
  | error e => exact iff_of_false nofun nofun
  | ok e => exact ⟨fun h => congrArg _ (Option.some.inj h), fun h => congrArg _ (Except.ok.inj h)⟩

/-- The text of a duration is read as its whole milliseconds, as far as 64 bits hold them. -/
theorem parse_text (d : Duration) : parse d.text = .ok (ofMillis (d.millis % UInt64.size)) := by
  have hwhole : (ofMillis (d.millis % UInt64.size)).IsWhole := ⟨_, Nat.mod_lt _ (by decide), rfl⟩
  rw [← text_ofMillis_mod, ← parse?_eq_some_iff]
  exact parse?_text hwhole

/-- A duration in whole milliseconds that 64 bits hold is read back from its text. -/
theorem parse_text_of_isWhole {d : Duration} (h : d.IsWhole) : parse d.text = .ok d :=
  parse?_eq_some_iff.1 (parse?_text h)

/-- Whole durations are the same if they are written the same. -/
theorem eq_of_text_eq {d e : Duration} (hd : d.IsWhole) (he : e.IsWhole) (h : d.text = e.text) :
    d = e := by
  have hparse := parse_text_of_isWhole hd
  rw [h, parse_text_of_isWhole he] at hparse
  exact (Except.ok.inj hparse).symm

/-- Two texts that are read denote the same exactly if what they are read as is written the same. -/
theorem text_eq_iff_denotes {s t : String} {d e : Duration} (hd : parse s = .ok d)
    (he : parse t = .ok e) : d.text = e.text ↔ ∃ ms, Denotes s ms ∧ Denotes t ms := by
  obtain ⟨ms, hms, hs, rfl⟩ := parse_eq_ok_iff.1 hd
  obtain ⟨ms', hms', ht, rfl⟩ := parse_eq_ok_iff.1 he
  constructor
  · intro htext
    have hsame := congrArg millis (eq_of_text_eq ⟨ms, hms, rfl⟩ ⟨ms', hms', rfl⟩ htext)
    rw [millis_ofMillis, millis_ofMillis] at hsame
    exact ⟨ms, hs, hsame ▸ ht⟩
  · rintro ⟨both, hs', ht'⟩
    rw [hs.unique hs', ht.unique ht']

/-- What becomes of a text that is read and written again so many times. -/
def rewritten? : Nat → String → Option String
  | 0, s => some s
  | n + 1, s => (parse? s).bind fun d => rewritten? n d.text

/-- Read and written once, a text stays as it is. -/
theorem rewritten?_succ {s : String} {d : Duration} (h : parse s = .ok d) (n : Nat) :
    rewritten? (n + 1) s = some d.text := by
  have hread := parse?_eq_some_iff.2 h
  rw [rewritten?, hread, Option.bind_some]
  induction n with
  | zero => rfl
  | succ n ih =>
    rw [rewritten?, parse?_text (isWhole_of_parse? hread), Option.bind_some]
    exact ih

/-- The text of a duration is read as its whole milliseconds modulo `2 ^ 64`, and so as the
duration itself if that is whole. Two texts that are read denote the same exactly if they are
written the same once read, and writing what was read any number of times changes nothing. -/
theorem text_canonical :
    (∀ d : Duration, parse d.text = .ok (ofMillis (d.millis % UInt64.size))) ∧
    (∀ d : Duration, d.IsWhole → parse d.text = .ok d) ∧
    (∀ s t d e, parse s = .ok d → parse t = .ok e →
      ((∃ ms, Denotes s ms ∧ Denotes t ms) ↔ d.text = e.text)) ∧
    ∀ s d, parse s = .ok d → parse d.text = .ok d ∧ ∀ n, rewritten? (n + 1) s = some d.text :=
  ⟨parse_text, fun _ => parse_text_of_isWhole,
    fun _ _ _ _ hd he => (text_eq_iff_denotes hd he).symm,
    fun _ _ h => ⟨parse_text_of_isWhole (isWhole_of_parse? (parse?_eq_some_iff.2 h)),
      rewritten?_succ h⟩⟩

/-- Ninety minutes, as minutes alone and as an hour and half an hour. -/
theorem text_canonical_ninetyMinutes :
    parse "90m" = .ok (ofSeconds 5400) ∧ parse "1h30m" = .ok (ofSeconds 5400) ∧
    (ofSeconds 5400).IsWhole ∧ parse (ofSeconds 5400).text = .ok (ofSeconds 5400) ∧
    (∃ ms, Denotes "90m" ms ∧ Denotes "1h30m" ms) ∧
    ∀ n, rewritten? (n + 1) "90m" = some "1h30m" := by
  have hwritten : IsWritten "90m" [⟨['9', '0'], .minutes⟩] :=
    ⟨by decide, by decide,
      List.forall_mem_singleton.2 ⟨by decide, List.all_eq_true.1 (by decide)⟩, by decide⟩
  have hparse : parse "90m" = .ok (ofSeconds 5400) := by
    rw [parse_of_isWritten hwritten, if_pos (by decide)]
    decide
  have htext : (ofSeconds 5400).text = "1h30m" := by decide
  have hwhole : (ofSeconds 5400).IsWhole := isWhole_ofSeconds (by decide)
  obtain ⟨-, hback, hsame, hstable⟩ := text_canonical
  have hread := hback _ hwhole
  refine ⟨hparse, htext ▸ hread, hwhole, hread, ?_, fun n => htext ▸ (hstable _ _ hparse).2 n⟩
  exact (hsame _ _ _ _ hparse (htext ▸ hread)).2 rfl

end AlertSync.Duration
