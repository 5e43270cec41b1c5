import AlertSync.Backend.Alerting
import AlertSync.Proofs.Sample
import AlertSync.Proofs.Selector
import AlertSync.Validation

/-!
# What a silence filter selects

A silence is created with the id and the environment of its alert as they are, and looked for by a
filter in which both are quoted. The alerting backend knows three escapes (`filterEscapes`). What it
reads for a quoted text is the text itself where every character has a glyph of its own or is a line
feed (`flatMap_readBack_eq_iff`): any other character is quoted with an escape that the backend does
not know, and read as the signs of that escape (`value?_quoteChar`). So the filter of an alert
selects the silences created for it exactly if its id and its environment have no such characters
(`silenceFilter_selects_iff`).
-/

namespace AlertSync.AlertingBackend

open Selector (value? isPlain isNameChar)

/-! ## Reading a quoted text -/

/-- How the alerting backend reads an escape: behind a backslash, a backslash, a quote and the
letter `n` stand for a backslash, a quote and a line feed, and before anything else the backslash
stands for itself. -/
def filterEscapes : Selector.Escapes
  | '\\' :: _ => some ('\\', 1)
  | '"' :: _ => some ('"', 1)
  | 'n' :: _ => some ('\n', 1)
  | _ => some ('\\', 0)

/-- What the backend reads for a character that is quoted. -/
def readBack (c : Char) : List Char :=
  if c = '"' ∨ c = '\\' ∨ c = '\n' then [c] else Text.quoteChar c

/-- Whether a character is a line feed or has a glyph of its own. -/
def isLegible (c : Char) : Bool := c == '\n' || !(Text.isExtending c || Text.isUnprintable c)

/-- The signs of a numbered escape are plain. -/
theorem isPlain_numbered (n : Nat) :
    ∀ d ∈ 'u' :: '\x7b' :: (Numeral.hex n ++ ['\x7d']), isPlain d = true := by
  have hdigits : ∀ d ∈ "0123456789abcdef".toList, isPlain d = true :=
    List.all_eq_true.1 (by decide)
  rw [List.forall_mem_cons, List.forall_mem_cons, List.forall_mem_append]
  exact ⟨by decide, by decide, fun d hd => hdigits d (Numeral.mem_hex hd),
    List.forall_mem_singleton.2 (by decide)⟩

/-- An illegible character is quoted with an escape that the backend does not know. -/
theorem quoteChar_of_not_isLegible {c : Char} (hquote : c ≠ '"') (hescape : c ≠ '\\')
    (h : isLegible c = false) :
    ∃ d ds, Text.quoteChar c = '\\' :: d :: ds ∧ d ≠ 'n' ∧ ∀ e ∈ d :: ds, isPlain e = true := by
  unfold isLegible at h
  rw [Bool.or_eq_false_iff, Bool.not_eq_false', beq_eq_false_iff_ne] at h
  obtain ⟨hbreak, hillegible⟩ := h
  unfold Text.quoteChar
  by_cases hzero : c = '\x00'
  · exact ⟨'0', [], if_pos hzero, by decide, List.all_eq_true.1 (by decide)⟩
  by_cases htab : c = '\t'
  · exact ⟨'t', [], (if_neg hzero).trans (if_pos htab), by decide, List.all_eq_true.1 (by decide)⟩
  by_cases hreturn : c = '\r'
  · rw [if_neg hzero, if_neg htab, if_pos hreturn]
    exact ⟨'r', [], rfl, by decide, List.all_eq_true.1 (by decide)⟩
  rw [if_neg hzero, if_neg htab, if_neg hreturn, if_neg hbreak, if_neg hquote, if_neg hescape,
    if_pos hillegible]
  exact ⟨'u', _, rfl, by decide, isPlain_numbered c.toNat⟩

/-- A legible character is quoted as it is, if the backend knows no escape for it. -/
theorem quoteChar_of_isLegible {c : Char} (hquote : c ≠ '"') (hescape : c ≠ '\\')
    (hbreak : c ≠ '\n') (h : isLegible c = true) : Text.quoteChar c = [c] := by
  have hcontrol : ∀ d ∈ ['\x00', '\t', '\r'], isLegible d = false :=
    List.forall_mem_cons.2 ⟨by decide +kernel, List.forall_mem_cons.2 ⟨by decide +kernel,
      List.forall_mem_singleton.2 (by decide +kernel)⟩⟩
  have hother : ∀ d ∈ ['\x00', '\t', '\r'], c ≠ d := by
    rintro d hd rfl
    rw [hcontrol c hd] at h
    cases h
  have hlegible : ¬ (Text.isExtending c || Text.isUnprintable c) = true := by
    simpa [isLegible, hbreak] using h
  unfold Text.quoteChar
  rw [if_neg (hother _ (by decide)), if_neg (hother _ (by decide)), if_neg (hother _ (by decide)),
    if_neg hbreak, if_neg hquote, if_neg hescape, if_neg hlegible]

/-- How a character is quoted: with an escape that the backend knows, with one that it does not
know, or as it is. The first and the last are the legible ones. -/
theorem quoteChar_cases (c : Char) :
    (isLegible c = true ∧ readBack c = [c] ∧
      ∃ l, Text.quoteChar c = ['\\', l] ∧ ∀ r, filterEscapes (l :: r) = some (c, 1)) ∨
    (isLegible c = false ∧ ∃ d ds, readBack c = '\\' :: d :: ds ∧
      Text.quoteChar c = '\\' :: d :: ds ∧ d ≠ 'n' ∧ ∀ e ∈ d :: ds, isPlain e = true) ∨
    (isLegible c = true ∧ readBack c = [c] ∧ Text.quoteChar c = [c] ∧ isPlain c = true) := by
  by_cases hknown : c = '"' ∨ c = '\\' ∨ c = '\n'
  · refine .inl ?_
    obtain rfl | rfl | rfl := hknown
    · exact ⟨by decide +kernel, rfl, '"', rfl, fun _ => rfl⟩
    · exact ⟨by decide +kernel, rfl, '\\', rfl, fun _ => rfl⟩
    · exact ⟨by decide, rfl, 'n', rfl, fun _ => rfl⟩
  · have hread : readBack c = Text.quoteChar c := if_neg hknown
    obtain ⟨hquote, hescape, hbreak⟩ : c ≠ '"' ∧ c ≠ '\\' ∧ c ≠ '\n' := by
      simpa only [not_or] using hknown
    rw [hread]
    cases hlegible : isLegible c with
    | false =>
      obtain ⟨d, ds, hsigns, hd, hplain⟩ := quoteChar_of_not_isLegible hquote hescape hlegible
      exact .inr (.inl ⟨rfl, d, ds, hsigns, hsigns, hd, hplain⟩)
    | true =>
      have hself := quoteChar_of_isLegible hquote hescape hbreak hlegible
      exact .inr (.inr ⟨rfl, hself, hself, by simp [isPlain, hquote, hescape, hbreak]⟩)

/-- A character that is quoted is read back as such. -/
theorem value?_quoteChar (c : Char) (r : List Char) :
    value? filterEscapes 0 (Text.quoteChar c ++ r) =
      (value? filterEscapes 0 r).map fun (w, rest) => (readBack c ++ w, rest) := by
  obtain ⟨-, hread, l, hquote, hl⟩ | ⟨-, d, ds, hread, hquote, hd, hplain⟩ |
    ⟨-, hread, hquote, hplain⟩ := quoteChar_cases c
  · rw [hquote, hread]
    exact Selector.value?_escape (hl r)
  · -- The backslash is read as such, and what follows it is plain.
    have hunknown : filterEscapes (d :: (ds ++ r)) = some ('\\', 0) := by
      have hd' := hplain d List.mem_cons_self
      unfold filterEscapes
      split <;> simp_all [isPlain]
    rw [hquote, hread, List.cons_append, List.cons_append, Selector.value?_escape hunknown,
      ← List.cons_append, Selector.value?_plain hplain, Option.map_map]
    rfl
  · rw [hquote, hread]
    exact Selector.value?_plain (by simpa using hplain) r

/-- A quoted text is read back character by character. -/
theorem value?_quoted (v rest : List Char) :
    value? filterEscapes 0 (v.flatMap Text.quoteChar ++ '"' :: rest) =
      some (v.flatMap readBack, rest) := by
  induction v with
  | nil => rfl
  | cons c v ih =>
    rw [List.flatMap_cons, List.append_assoc, value?_quoteChar, ih, List.flatMap_cons]
    rfl

/-- No text is read back shorter than it was. -/
theorem length_le_flatMap_readBack (v : List Char) : v.length ≤ (v.flatMap readBack).length := by
  induction v with
  | nil => exact Nat.le_refl _
  | cons c v ih =>
    have hone : 1 ≤ (readBack c).length := by
      obtain ⟨-, hread, -⟩ | ⟨-, d, ds, hread, -⟩ | ⟨-, hread, -⟩ := quoteChar_cases c <;>
        rw [hread] <;> simp
    rw [List.flatMap_cons, List.length_append, List.length_cons]
    omega

/-- A text is read back as itself exactly if all its characters are legible. -/
theorem flatMap_readBack_eq_iff {v : List Char} :
    v.flatMap readBack = v ↔ ∀ c ∈ v, isLegible c = true := by
  induction v with
  | nil => exact iff_of_true rfl fun c hc => nomatch hc
  | cons c v ih =>
    rw [List.flatMap_cons, List.forall_mem_cons, ← ih]
    obtain ⟨hlegible, hread, -⟩ | ⟨hlegible, d, ds, hread, -⟩ | ⟨hlegible, hread, -⟩ :=
      quoteChar_cases c
    · rw [hread, hlegible]
      simp
    · -- The signs of an escape are more than the one character.
      have hlength := length_le_flatMap_readBack v
      refine iff_of_false (fun h => ?_) (by simp [hlegible])
      have hsame := congrArg List.length h
      rw [hread] at hsame
      simp only [List.cons_append, List.length_cons, List.length_append] at hsame
      omega
    · rw [hread, hlegible]
      simp

/-! ## The filter of an alert -/

/-- The matchers that the backend reads off a filter. -/
def readFilter? (filter : String) : Option (List Matcher) :=
  match Selector.read? filterEscapes filter with
  | some ("", ms, "") => some (ms.map fun (name, value) => ⟨name, value⟩)
  | _ => none

/-- A text as it is read back. -/
def readBackText (s : String) : String := String.ofList (s.toList.flatMap readBack)

/-- Whether all characters of a text are legible. -/
def IsLegible (s : String) : Prop := ∀ c ∈ s.toList, isLegible c = true

theorem readBackText_eq_iff {s : String} : readBackText s = s ↔ IsLegible s := by
  unfold readBackText IsLegible
  rw [← String.toList_inj, String.toList_ofList, flatMap_readBack_eq_iff]

/-- The filter of an alert is read as asking for its id and its environment, as they are read
back. -/
theorem readFilter?_silenceFilter (a : Alert) :
    readFilter? (silenceFilter a) = some [⟨"alert_id", readBackText a.id⟩,
      ⟨"environment", readBackText a.environment⟩] := by
  have hchars : (silenceFilter a).toList = "".toList ++ '\x7b' ::
      ("alert_id".toList ++ '=' :: '"' :: (a.id.toList.flatMap Text.quoteChar ++ '"' :: ',' ::
        ("environment".toList ++ '=' :: '"' ::
          (a.environment.toList.flatMap Text.quoteChar ++ '"' :: '\x7d' :: [])))) := by
    simp [silenceFilter, matchers, Text.quote, Text.quoteChars]
  have hread : Selector.read? filterEscapes (silenceFilter a) = some ("",
      [("alert_id", readBackText a.id), ("environment", readBackText a.environment)], "") := by
    rw [Selector.read?_of_toList (List.all_eq_true.1 (by decide)) hchars]
    generalize hlength : List.length _ = n
    obtain ⟨fuel, rfl⟩ : ∃ fuel, n = fuel + 2 := by
      refine ⟨n - 2, ?_⟩
      simp at hlength
      omega
    rw [Selector.matchers?_comma (List.all_eq_true.1 (by decide)) (by decide) (value?_quoted _ _),
      Selector.matchers?_brace (List.all_eq_true.1 (by decide)) (by decide) (value?_quoted _ _)]
    rfl
  unfold readFilter?
  rw [hread]
  rfl

/-- The filter of an alert selects the silences of an alert whose id and environment are what is
read back of its own. -/
theorem readFilter?_silenceFilter_iff (a b : Alert) :
    readFilter? (silenceFilter a) = some (matchers b) ↔
      b.id = readBackText a.id ∧ b.environment = readBackText a.environment := by
  rw [readFilter?_silenceFilter]
  unfold matchers
  simp [eq_comm]

/-- A filter is read as asking for the id and the environment of its alert, each as it is read
back; that is what a silence for the alert is created with exactly if both are legible. Then the
filter selects the silences for alerts with this id and environment and no others. -/
theorem silenceFilter_selects_iff (a : Alert) :
    readFilter? (silenceFilter a) = some [⟨"alert_id", readBackText a.id⟩,
      ⟨"environment", readBackText a.environment⟩] ∧
    (readFilter? (silenceFilter a) = some (matchers a) ↔
      IsLegible a.id ∧ IsLegible a.environment) ∧
    (IsLegible a.id → IsLegible a.environment → ∀ b,
      readFilter? (silenceFilter a) = some (matchers b) ↔
        b.id = a.id ∧ b.environment = a.environment) := by
  refine ⟨readFilter?_silenceFilter a, ?_, fun hid henvironment b => ?_⟩
  · rw [readFilter?_silenceFilter_iff, eq_comm, readBackText_eq_iff, eq_comm, readBackText_eq_iff]
  · rw [readFilter?_silenceFilter_iff, readBackText_eq_iff.2 hid,
      readBackText_eq_iff.2 henvironment]

/-- An environment with a quote, a backslash, a line feed and a letter beyond ASCII is legible. -/
theorem silenceFilter_selects_iff_quoted :
    IsLegible "a1" ∧ IsLegible "\"é\\\n" ∧
      readFilter? (silenceFilter (.sample "a1" "\"é\\\n" "r1" .suppressed)) =
        some (matchers (.sample "a1" "\"é\\\n" "r1" .suppressed)) := by
  have hid : IsLegible "a1" := List.all_eq_true.1 (by decide +kernel)
  have henvironment : IsLegible "\"é\\\n" := List.all_eq_true.1 (by decide +kernel)
  obtain ⟨-, -, hselects⟩ :=
    silenceFilter_selects_iff (.sample "a1" "\"é\\\n" "r1" .suppressed)
  exact ⟨hid, henvironment, (hselects hid henvironment _).2 ⟨rfl, rfl⟩⟩

/-- Not every alert that is accepted has its silences selected by its filter: a tab in the
environment is read back as a backslash and a letter. -/
theorem not_silenceFilter_selects : ¬ ∀ a : Alert, a.validate = .ok () →
    readFilter? (silenceFilter a) = some (matchers a) := by
  intro h
  have hselects := h (.sample "a1" "e\t1" "r1" .suppressed) rfl
  have hsame := ((readFilter?_silenceFilter_iff _ _).1 hselects).2
  have hread : readBackText "e\t1" = "e\\t1" := by decide +kernel
  rw [Alert.sample, hread] at hsame
  exact absurd hsame (by decide)

end AlertSync.AlertingBackend
