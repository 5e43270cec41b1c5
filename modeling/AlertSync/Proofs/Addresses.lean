import AlertSync.Http
import Mathlib

/-!
# Addresses below an address

The addresses at which a backend is asked are put together from the address that it has in the
settings and a text behind it. A text behind a slash may come to stand in the path of a URL, in its
query or in its fragment. Where it consists of steps that need no encoding (`IsTrailing`) it is kept
in each of them as it is: the URL of the whole is that of the part before it, with the text at its
end (`exists_parse_below`).
-/

namespace AlertSync.Url

/-! ## Texts that stand for themselves -/

/-- Whether a character stands for itself everywhere in a URL. -/
def isUnreserved (c : Char) : Bool := c.isAlphanum || ['-', '.', '_', '~'].contains c

/-- A text of steps that stand for themselves. -/
structure IsTrailing (cs : List Char) : Prop where
  chars : ∀ c ∈ cs, isUnreserved c = true ∨ c = '/'
  noDots : ∀ step ∈ rawSteps true cs, dots? step ≠ some 1 ∧ dots? step ≠ some 2

theorem toNat_lt_of_isUnreserved {c : Char} (h : isUnreserved c = true) : c.toNat < 128 := by
  simp only [isUnreserved, Char.isAlphanum, Char.isAlpha, Char.isUpper, Char.isLower, Char.isDigit,
    Bool.or_eq_true, Bool.and_eq_true, decide_eq_true_eq, ge_iff_le, UInt32.le_iff_toNat_le,
    List.contains_iff_mem, List.mem_cons, List.not_mem_nil, or_false] at h
  have hval : c.toNat = c.val.toNat := rfl
  obtain ((⟨-, h⟩ | ⟨-, h⟩) | ⟨-, h⟩) | rfl | rfl | rfl | rfl := h
  · have hlast : 'Z'.val.toNat = 90 := rfl
    omega
  · have hlast : 'z'.val.toNat = 122 := rfl
    omega
  · have hlast : '9'.val.toNat = 57 := rfl
    omega
  all_goals decide

/-- What a reader of URLs finds in a character of such a text: it is no blank, it is not encoded,
and it neither ends a path nor counts as a slash if it is none. -/
structure IsKept (c : Char) : Prop where
  ascii : c.toNat < 128
  visible : 32 < c.toNat
  inPath : inPath c = false
  inQuery : inSpecialQuery c = false
  noEnd : endsPath c = false
  slash : isSlash true c = true → c = '/'
  ne_percent : c ≠ '%'

theorem isKept_of_isUnreserved {c : Char} (h : isUnreserved c = true ∨ c = '/') : IsKept c := by
  have hascii : c.toNat < 128 := by
    obtain h | rfl := h
    · exact toNat_lt_of_isUnreserved h
    · decide
  have hall : ∀ n ∈ List.range 128, isUnreserved (Char.ofNat n) = true ∨ Char.ofNat n = '/' →
      32 < n ∧ inPath (Char.ofNat n) = false ∧ inSpecialQuery (Char.ofNat n) = false ∧
        endsPath (Char.ofNat n) = false ∧
        (isSlash true (Char.ofNat n) = true → Char.ofNat n = '/') ∧ Char.ofNat n ≠ '%' := by
    decide +kernel
  have hc := hall c.toNat (List.mem_range.2 hascii)
  rw [Char.ofNat_toNat] at hc
  obtain ⟨hvisible, hpath, hquery, hend, hslash, hpercent⟩ := hc h
  exact ⟨hascii, hvisible, hpath, hquery, hend, hslash, hpercent⟩

theorem IsTrailing.isKept {cs : List Char} (h : IsTrailing cs) {c : Char} (hc : c ∈ cs) :
    IsKept c := isKept_of_isUnreserved (h.chars c hc)

/-- A text that stands for itself is not encoded. -/
theorem percentEncode_append {p : Char → Bool} (cs : List Char) {rest : List Char}
    (h : ∀ c ∈ rest, c.toNat < 128 ∧ p c = false) :
    percentEncode p (cs ++ rest) = percentEncode p cs ++ String.ofList rest := by
  have hself : rest.flatMap (encodeChar p) = rest := by
    calc rest.flatMap (encodeChar p) = rest.flatMap (fun c => [c]) := by
          refine List.flatMap_congr fun c hc => ?_
          obtain ⟨hlt, hp⟩ := h c hc
          unfold encodeChar
          rw [if_neg (by simp [hp]; omega)]
      _ = rest := List.flatMap_singleton' rest
  unfold percentEncode
  rw [List.flatMap_append, hself, String.ofList_append]

/-- The dots that a text without encoded ones consists of. -/
theorem eq_replicate_of_dots? {cs : List Char} (h : ∀ c ∈ cs, c ≠ '%') {n : Nat}
    (hdots : dots? cs = some n) : cs = List.replicate n '.' := by
  induction cs generalizing n with
  | nil =>
    obtain rfl : 0 = n := Option.some.inj hdots
    rfl
  | cons c cs ih =>
    unfold dots? at hdots
    split at hdots
    · contradiction
    · next rest heq =>
      obtain ⟨rfl, rfl⟩ := List.cons.inj heq
      obtain ⟨m, hm, rfl⟩ := Option.map_eq_some_iff.1 hdots
      rw [List.replicate_succ, ← ih (fun d hd => h d (List.mem_cons_of_mem _ hd)) hm]
    · next heq => exact absurd (List.cons.inj heq).1 (h c List.mem_cons_self)
    · next heq => exact absurd (List.cons.inj heq).1 (h c List.mem_cons_self)
    · contradiction

/-! ## Steps of a path -/

variable {special : Bool} {c : Char} {cs : List Char}

/-- No text is without a step. -/
theorem exists_rawSteps (special : Bool) (cs : List Char) :
    ∃ first others, rawSteps special cs = first :: others := by
  cases cs with
  | nil => exact ⟨_, _, rfl⟩
  | cons c cs =>
    unfold rawSteps
    split
    · exact ⟨_, _, rfl⟩
    · split <;> exact ⟨_, _, rfl⟩

theorem rawSteps_slash (h : isSlash special c = true) (cs : List Char) :
    rawSteps special (c :: cs) = [] :: rawSteps special cs := by
  obtain ⟨first, others, hsteps⟩ := exists_rawSteps special cs
  rw [rawSteps, hsteps]
  exact if_pos h

theorem rawSteps_cons (h : isSlash special c = false) {first : List Char}
    {others : List (List Char)} (hsteps : rawSteps special cs = first :: others) :
    rawSteps special (c :: cs) = (c :: first) :: others := by
  rw [rawSteps, hsteps]
  exact if_neg (by simp [h])

/-- A slash ends a step. -/
theorem rawSteps_append_slash (special : Bool) (cs rest : List Char) :
    rawSteps special (cs ++ '/' :: rest) = rawSteps special cs ++ rawSteps special rest := by
  induction cs with
  | nil => exact rawSteps_slash rfl rest
  | cons c cs ih =>
    rw [List.cons_append]
    cases hc : isSlash special c with
    | true => rw [rawSteps_slash hc, rawSteps_slash hc, ih, List.cons_append]
    | false =>
      obtain ⟨first, others, hsteps⟩ := exists_rawSteps special cs
      rw [hsteps, List.cons_append] at ih
      rw [rawSteps_cons hc hsteps, rawSteps_cons hc ih, List.cons_append]

/-- A step that is no dots leads to a place of its own. -/
theorem goSteps_cons {step : List Char} (hone : dots? step ≠ some 1) (htwo : dots? step ≠ some 2)
    (place : List String) (rest : List (List Char)) :
    goSteps place (step :: rest) = goSteps (place ++ [percentEncode inPath step]) rest := by
  rw [goSteps]
  split
  · contradiction
  · contradiction
  · rfl

/-- What follows some steps is gone from where they lead. -/
theorem exists_goSteps_append (place : List String) (steps : List (List Char)) :
    ∃ place', ∀ rest, rest ≠ [] → goSteps place (steps ++ rest) = goSteps place' rest := by
  induction steps generalizing place with
  | nil => exact ⟨place, fun _ _ => rfl⟩
  | cons step steps ih =>
    -- None of the steps is the last, so dots leave no empty step behind.
    have hmore : ∀ rest : List (List Char), rest ≠ [] → (steps ++ rest).isEmpty = false := by
      intro rest hrest
      simp [hrest]
    have hstep : ∃ place', ∀ rest, rest ≠ [] →
        goSteps place (step :: steps ++ rest) = goSteps place' (steps ++ rest) := by
      by_cases hone : dots? step = some 1
      · refine ⟨place, fun rest hrest => ?_⟩
        rw [List.cons_append, goSteps, hone]
        simp [hmore rest hrest]
      · by_cases htwo : dots? step = some 2
        · refine ⟨place.dropLast, fun rest hrest => ?_⟩
          rw [List.cons_append, goSteps, htwo]
          simp [hmore rest hrest]
        · refine ⟨place ++ [percentEncode inPath step], fun rest hrest => ?_⟩
          rw [List.cons_append, goSteps_cons hone htwo]
    obtain ⟨place₁, hplace₁⟩ := hstep
    obtain ⟨place₂, hplace₂⟩ := ih place₁
    exact ⟨place₂, fun rest hrest => (hplace₁ rest hrest).trans (hplace₂ rest hrest)⟩

/-- Steps that stand for themselves lead on as they are. -/
theorem goSteps_of_noDots (place : List String) {steps : List (List Char)}
    (hdots : ∀ step ∈ steps, dots? step ≠ some 1 ∧ dots? step ≠ some 2)
    (hself : ∀ step ∈ steps, percentEncode inPath step = String.ofList step) :
    goSteps place steps = place ++ steps.map String.ofList := by
  induction steps generalizing place with
  | nil => exact (List.append_nil place).symm
  | cons step steps ih =>
    obtain ⟨hone, htwo⟩ := hdots step List.mem_cons_self
    rw [goSteps_cons hone htwo, hself step List.mem_cons_self,
      ih _ (fun s hs => hdots s (List.mem_cons_of_mem _ hs))
        (fun s hs => hself s (List.mem_cons_of_mem _ hs)),
      List.map_cons, List.append_assoc, List.singleton_append]

theorem text_steps_cons (step : String) (steps : List String) :
    (UrlPath.steps (step :: steps)).text = "/" ++ step ++ (UrlPath.steps steps).text :=
  String.join_cons

theorem text_steps_append (steps more : List String) :
    (UrlPath.steps (steps ++ more)).text =
      (UrlPath.steps steps).text ++ (UrlPath.steps more).text := by
  induction steps with
  | nil => exact String.empty_append.symm
  | cons step steps ih =>
    rw [List.cons_append, text_steps_cons, ih, text_steps_cons, ← String.append_assoc]

/-- The steps of a text, each behind a slash, are the text behind a slash. -/
theorem text_rawSteps (h : ∀ c ∈ cs, isSlash true c = true → c = '/') :
    (UrlPath.steps ((rawSteps true cs).map String.ofList)).text = "/" ++ String.ofList cs := by
  induction cs with
  | nil => rfl
  | cons c cs ih =>
    have hrest := ih fun d hd => h d (List.mem_cons_of_mem _ hd)
    cases hc : isSlash true c with
    | true =>
      obtain rfl := h c List.mem_cons_self hc
      rw [rawSteps_slash hc, List.map_cons, text_steps_cons, hrest, String.ofList_cons]
      rfl
    | false =>
      obtain ⟨first, others, hsteps⟩ := exists_rawSteps true cs
      rw [hsteps, List.map_cons, text_steps_cons, String.append_assoc,
        String.append_right_inj] at hrest
      rw [rawSteps_cons hc hsteps, List.map_cons, text_steps_cons, String.ofList_cons,
        String.append_assoc, String.append_assoc, hrest, String.ofList_cons]

/-- Every character of a step is one of the text. -/
theorem mem_of_mem_rawSteps {step : List Char} (hstep : step ∈ rawSteps special cs)
    (hc : c ∈ step) : c ∈ cs := by
  induction cs generalizing step with
  | nil =>
    obtain rfl := List.mem_singleton.1 hstep
    exact hc
  | cons d cs ih =>
    cases hd : isSlash special d with
    | true =>
      rw [rawSteps_slash hd] at hstep
      obtain rfl | hstep := List.mem_cons.1 hstep
      · contradiction
      · exact List.mem_cons_of_mem d (ih hstep hc)
    | false =>
      obtain ⟨first, others, hsteps⟩ := exists_rawSteps special cs
      rw [hsteps] at ih
      rw [rawSteps_cons hd hsteps] at hstep
      obtain rfl | hstep := List.mem_cons.1 hstep
      · obtain rfl | hc := List.mem_cons.1 hc
        · exact List.mem_cons_self
        · exact List.mem_cons_of_mem d (ih List.mem_cons_self hc)
      · exact List.mem_cons_of_mem d (ih (List.mem_cons_of_mem first hstep) hc)

/-! ## What is behind an authority -/

/-- A character at which a reader stops is stopped at alike whatever follows it. -/
theorem takeWhile_append_stop {α : Type} (p : α → Bool) {c : α} (hc : p c = false)
    (l rest : List α) : (l ++ c :: rest).takeWhile p = l.takeWhile p ∧
      (l ++ c :: rest).dropWhile p = l.dropWhile p ++ c :: rest := by
  induction l with
  | nil =>
    exact ⟨List.takeWhile_cons_of_neg (by simp [hc]), List.dropWhile_cons_of_neg (by simp [hc])⟩
  | cons d l ih =>
    rw [List.cons_append]
    cases hd : p d with
    | true =>
      rw [List.takeWhile_cons_of_pos hd, List.dropWhile_cons_of_pos hd,
        List.takeWhile_cons_of_pos hd, List.dropWhile_cons_of_pos hd]
      exact ⟨congrArg (d :: ·) ih.1, ih.2⟩
    | false =>
      have hneg : ¬ p d = true := by simp [hd]
      rw [List.takeWhile_cons_of_neg hneg, List.dropWhile_cons_of_neg hneg,
        List.takeWhile_cons_of_neg hneg, List.dropWhile_cons_of_neg hneg]
      exact ⟨rfl, rfl⟩

/-- The URL with an authority and what is behind it. -/
def behind (scheme : String) (a : Authority) (cs : List Char) : Url :=
  let (query, fragment) := tailOf true (cs.dropWhile fun c => !endsPath c)
  ⟨scheme, some a, .steps (pathOf true cs), query, fragment⟩

/-- The text of a query and a fragment. -/
def tailText (tail : Option String × Option String) : String :=
  (match tail.1 with
    | some q => "?" ++ q
    | none => "") ++
  match tail.2 with
  | some f => "#" ++ f
  | none => ""

/-- The text of what is behind the authority of a URL. -/
def behindText (cs : List Char) : String :=
  (UrlPath.steps (pathOf true cs)).text ++
    tailText (tailOf true (cs.dropWhile fun c => !endsPath c))

theorem text_behind (scheme : String) (a : Authority) (cs : List Char) :
    (behind scheme a cs).text = scheme ++ ":" ++ ("//" ++ a.text) ++ behindText cs := by
  unfold behind behindText
  generalize tailOf true (cs.dropWhile fun c => !endsPath c) = tail
  obtain ⟨query, fragment⟩ := tail
  cases query <;> cases fragment <;> simp only [text, tailText, String.append_assoc]

/-- Steps that stand for themselves are the end of the text of a path. -/
theorem text_goSteps_of_isTrailing {rest : List Char} (h : IsTrailing rest)
    (place : List String) : (UrlPath.steps (goSteps place (rawSteps true rest))).text =
      (UrlPath.steps place).text ++ "/" ++ String.ofList rest := by
  have hself : ∀ step ∈ rawSteps true rest,
      percentEncode inPath step = String.ofList step := by
    intro step hstep
    refine (percentEncode_append [] fun c hc => ?_).trans String.empty_append
    have hkept := h.isKept (mem_of_mem_rawSteps hstep hc)
    exact ⟨hkept.ascii, hkept.inPath⟩
  have hslash : ∀ c ∈ rest, isSlash true c = true → c = '/' := fun c hc => (h.isKept hc).slash
  rw [goSteps_of_noDots place h.noDots hself, text_steps_append, text_rawSteps hslash,
    String.append_assoc]

/-- The steps of a text without query and fragment are those of the whole. -/
theorem stepsFrom_eq {cs : List Char} (h : ∀ c ∈ cs, endsPath c = false) (place : List String) :
    stepsFrom place true cs = goSteps place (rawSteps true cs) := by
  unfold stepsFrom
  rw [List.takeWhile_eq_self_iff.2 fun c hc => by simp [h c hc]]

/-- A text in a path is kept. -/
theorem exists_behindText_of_path {cs : List Char} (hcs : ∀ c ∈ cs, endsPath c = false)
    (hhead : ∀ c, cs.head? = some c → isSlash true c = true) :
    ∃ front, ∀ rest, IsTrailing rest →
      behindText (cs ++ '/' :: rest) = front ++ String.ofList rest := by
  have hkept : ∀ rest, IsTrailing rest → ∀ c ∈ rest, endsPath c = false :=
    fun rest hrest c hc => (hrest.isKept hc).noEnd
  have hwhole : ∀ l rest, (∀ c ∈ l, endsPath c = false) → IsTrailing rest →
      ∀ c ∈ l ++ '/' :: rest, endsPath c = false := by
    intro l rest hl hrest
    exact List.forall_mem_append.2 ⟨hl, List.forall_mem_cons.2 ⟨rfl, hkept rest hrest⟩⟩
  have hplace : ∃ place, ∀ rest, IsTrailing rest →
      pathOf true (cs ++ '/' :: rest) = goSteps place (rawSteps true rest) := by
    cases cs with
    | nil => exact ⟨[], fun rest hrest => stepsFrom_eq (hkept rest hrest) []⟩
    | cons c cs =>
      obtain ⟨place, hplace⟩ := exists_goSteps_append [] (rawSteps true cs)
      refine ⟨place, fun rest hrest => ?_⟩
      obtain ⟨first, others, hsteps⟩ := exists_rawSteps true rest
      have hbehind := hwhole cs rest (fun d hd => hcs d (List.mem_cons_of_mem c hd)) hrest
      rw [List.cons_append, pathOf, if_pos (hhead c rfl), stepsFrom_eq hbehind,
        rawSteps_append_slash, hplace _ (by simp [hsteps])]
  obtain ⟨place, hplace⟩ := hplace
  refine ⟨(UrlPath.steps place).text ++ "/", fun rest hrest => ?_⟩
  have hdrop : (cs ++ '/' :: rest).dropWhile (fun c => !endsPath c) = [] :=
    List.dropWhile_eq_nil_iff.2 fun c hc => by simp [hwhole cs rest hcs hrest c hc]
  have htail : tailText (tailOf true []) = "" := rfl
  unfold behindText
  rw [hdrop, hplace rest hrest, htail, text_goSteps_of_isTrailing hrest, String.append_empty]

/-- The path does not depend on what is behind its end. -/
theorem pathOf_append_stop {e : Char} (he : endsPath e = true) (cs more : List Char) :
    pathOf true (cs ++ e :: more) = pathOf true (cs ++ [e]) := by
  have hstop := takeWhile_append_stop (fun c => !endsPath c) (c := e) (by simp [he])
  have hsteps (ds : List Char) : stepsFrom [] true (ds ++ e :: more) =
      stepsFrom [] true (ds ++ [e]) := by
    unfold stepsFrom
    rw [(hstop ds more).1, (hstop ds []).1]
  cases cs with
  | nil =>
    have hslash : ¬ isSlash true e = true := by
      unfold endsPath at he
      obtain rfl | rfl : e = '?' ∨ e = '#' := by simpa using he
      · decide
      · decide
    rw [List.nil_append, List.nil_append, pathOf, pathOf, if_neg hslash, if_neg hslash]
    exact hsteps []
  | cons c cs =>
    have hwhole := hsteps (c :: cs)
    rw [List.cons_append, List.cons_append] at hwhole
    rw [List.cons_append, List.cons_append, pathOf, pathOf, hsteps cs, hwhole]

theorem tailOf_query {q : List Char} (hq : '#' ∉ q) :
    tailOf true ('?' :: q) = (some (percentEncode inSpecialQuery q), none) := by
  have hself : ∀ c ∈ '?' :: q, (c != '#') = true := by
    refine List.forall_mem_cons.2 ⟨rfl, fun c hc => ?_⟩
    exact bne_iff_ne.2 (ne_of_mem_of_not_mem hc hq)
  unfold tailOf
  rw [List.takeWhile_eq_self_iff.2 hself, List.dropWhile_eq_nil_iff.2 hself]
  rfl

theorem tailOf_query_fragment {q : List Char} (hq : '#' ∉ q) (f : List Char) :
    tailOf true ('?' :: (q ++ '#' :: f)) =
      (some (percentEncode inSpecialQuery q), some (percentEncode inFragment f)) := by
  have hself : ∀ c ∈ '?' :: q, (c != '#') = true := by
    refine List.forall_mem_cons.2 ⟨rfl, fun c hc => ?_⟩
    exact bne_iff_ne.2 (ne_of_mem_of_not_mem hc hq)
  obtain ⟨htake, hdrop⟩ := takeWhile_append_stop (· != '#') (c := '#') rfl ('?' :: q) f
  rw [List.takeWhile_eq_self_iff.2 hself, List.cons_append] at htake
  rw [List.dropWhile_eq_nil_iff.2 hself, List.cons_append] at hdrop
  unfold tailOf
  rw [htake, hdrop]
  rfl

/-- A text in a query or in a fragment is kept. -/
theorem exists_tailText {e : Char} (he : endsPath e = true) (more : List Char) :
    ∃ front, ∀ rest, IsTrailing rest →
      tailText (tailOf true (e :: (more ++ '/' :: rest))) = front ++ String.ofList rest := by
  have hquery : ∀ rest, IsTrailing rest → ∀ cs, percentEncode inSpecialQuery (cs ++ '/' :: rest) =
      percentEncode inSpecialQuery (cs ++ ['/']) ++ String.ofList rest := by
    intro rest hrest cs
    rw [List.append_cons]
    exact percentEncode_append _ fun c hc => ⟨(hrest.isKept hc).ascii, (hrest.isKept hc).inQuery⟩
  have hfragment : ∀ rest, IsTrailing rest → ∀ cs, percentEncode inFragment (cs ++ '/' :: rest) =
      percentEncode inFragment (cs ++ ['/']) ++ String.ofList rest := by
    intro rest hrest cs
    rw [List.append_cons]
    -- What is encoded in a fragment is encoded in a path.
    refine percentEncode_append _ fun c hc => ⟨(hrest.isKept hc).ascii, ?_⟩
    exact (Bool.or_eq_false_iff.1 (hrest.isKept hc).inPath).1
  obtain rfl | rfl : e = '?' ∨ e = '#' := by simpa [endsPath] using he
  · by_cases hmark : '#' ∈ more
    · -- The query ends before the text, which belongs to the fragment.
      obtain ⟨q, f, rfl, hq⟩ := List.eq_append_cons_of_mem hmark
      refine ⟨"?" ++ percentEncode inSpecialQuery q ++
        ("#" ++ percentEncode inFragment (f ++ ['/'])), fun rest hrest => ?_⟩
      rw [List.append_assoc, List.cons_append, tailOf_query_fragment hq, hfragment rest hrest]
      simp only [tailText, String.append_assoc]
    · refine ⟨"?" ++ percentEncode inSpecialQuery (more ++ ['/']), fun rest hrest => ?_⟩
      have hnone : '#' ∉ more ++ '/' :: rest := by
        intro hmem
        obtain hmem | hmem := List.mem_append.1 hmem
        · exact hmark hmem
        · obtain hmem | hmem := List.mem_cons.1 hmem
          · exact absurd hmem (by decide)
          · exact absurd (hrest.isKept hmem).noEnd (by decide)
      rw [tailOf_query hnone, hquery rest hrest]
      exact String.append_empty.trans (String.append_assoc ..).symm
  · refine ⟨"#" ++ percentEncode inFragment (more ++ ['/']), fun rest hrest => ?_⟩
    have htail : tailOf true ('#' :: (more ++ '/' :: rest)) =
        (none, some (percentEncode inFragment (more ++ '/' :: rest))) := rfl
    rw [htail, hfragment rest hrest]
    exact String.empty_append.trans (String.append_assoc ..).symm

/-- What is behind an authority and a slash is kept. -/
theorem exists_behindText {cs : List Char}
    (hhead : ∀ c, cs.head? = some c → isSlash true c = true ∨ endsPath c = true) :
    ∃ front, ∀ rest, IsTrailing rest →
      behindText (cs ++ '/' :: rest) = front ++ String.ofList rest := by
  -- The text comes to stand in the path, or behind the first mark that ends it.
  by_cases hpath : ∀ c ∈ cs, endsPath c = false
  · refine exists_behindText_of_path hpath fun c hc => ?_
    have hend := hpath c (List.mem_of_head? hc)
    exact (hhead c hc).resolve_right (by simp [hend])
  · obtain ⟨e, hfound⟩ : ∃ e, cs.find? endsPath = some e := by
      rw [← Option.isSome_iff_exists, List.find?_isSome]
      simpa using hpath
    obtain ⟨he, steps, more, rfl, hsteps⟩ := List.find?_eq_some_iff_append.1 hfound
    obtain ⟨front, hfront⟩ := exists_tailText he more
    refine ⟨(UrlPath.steps (pathOf true (steps ++ [e]))).text ++ front, fun rest hrest => ?_⟩
    have hdrop : (steps ++ e :: (more ++ '/' :: rest)).dropWhile (fun c => !endsPath c) =
        e :: (more ++ '/' :: rest) := by
      rw [List.dropWhile_append_of_pos hsteps, List.dropWhile_cons_of_neg (by simp [he])]
    unfold behindText
    rw [List.append_assoc, List.cons_append, pathOf_append_stop he, hdrop, hfront rest hrest,
      String.append_assoc]

/-! ## Reading an address -/

/-- A text that stands for itself counts as it is. -/
theorem exists_relevant_append (b : String) :
    ∃ front, ∀ t : List Char, t ≠ [] → (∀ c ∈ t, isUnreserved c = true ∨ c = '/') →
      relevant (b ++ String.ofList t) = front ++ t := by
  let outer (c : Char) : Bool := c.toNat ≤ 32
  let counts (c : Char) : Bool := c != '\t' && c != '\n' && c != '\r'
  -- Blanks are dropped at both ends, and the text, which ends the whole, has none.
  refine ⟨(b.toList.dropWhile outer).filter counts, fun t hne ht => ?_⟩
  have hblank : ∀ c ∈ t, outer c = false := by
    intro c hc
    have hvisible := (isKept_of_isUnreserved (ht c hc)).visible
    exact decide_eq_false (by omega)
  have hcounts : ∀ c ∈ t, counts c = true := by
    intro c hc
    have hc := hblank c hc
    have hne : ∀ d, outer d = true → c ≠ d := by
      rintro d hd rfl
      rw [hc] at hd
      cases hd
    simp [counts, hne '\t' rfl, hne '\n' rfl, hne '\r' rfl]
  have hfront : (b.toList ++ t).dropWhile outer = b.toList.dropWhile outer ++ t := by
    obtain ⟨c, t, rfl⟩ := List.exists_cons_of_ne_nil hne
    exact (takeWhile_append_stop outer (hblank c List.mem_cons_self) b.toList t).2
  have hend (cs : List Char) : ((cs ++ t).reverse.dropWhile outer).reverse = cs ++ t := by
    have hlast : t = t.dropLast ++ [t.getLast hne] := (List.dropLast_append_getLast hne).symm
    have hreverse : (cs ++ t).reverse = t.getLast hne :: (cs ++ t.dropLast).reverse := by
      conv_lhs => rw [hlast, ← List.append_assoc, List.reverse_concat]
    rw [hreverse, List.dropWhile_cons_of_neg (by simp [hblank _ (List.getLast_mem hne)]),
      ← hreverse, List.reverse_reverse]
  calc relevant (b ++ String.ofList t)
      = ((((b.toList ++ t).dropWhile outer).reverse.dropWhile outer).reverse).filter counts := by
        rw [← String.toList_ofList (l := t), ← String.toList_append, String.toList_ofList]
        rfl
    _ = (b.toList.dropWhile outer).filter counts ++ t := by
        rw [hfront, hend, List.filter_append, List.filter_eq_self.2 hcounts]

/-- The scheme of a text ends before a slash. -/
theorem scheme?_append_slash (cs rest : List Char) :
    scheme? (cs ++ '/' :: rest) =
      (scheme? cs).map fun (scheme, more) => (scheme, more ++ '/' :: rest) := by
  obtain ⟨htake, hdrop⟩ := takeWhile_append_stop
    (fun c => c.isAlphanum || ['+', '-', '.'].contains c) (c := '/') rfl cs rest
  unfold scheme?
  dsimp only
  rw [htake, hdrop]
  generalize cs.takeWhile _ = name
  generalize cs.dropWhile _ = more
  cases name with
  | nil => rfl
  | cons c name =>
    cases more with
    | nil => rfl
    | cons d more =>
      by_cases hd : d = ':'
      · subst hd
        by_cases hc : c.isAlpha
        · simp [hc]
        · simp [hc]
      · simp [hd]

theorem withAuthority_eq {scheme : String} (h : isSpecialScheme scheme = true) (cs : List Char) :
    withAuthority scheme cs =
      (authorityOf scheme (cs.takeWhile fun c => !isSlash true c && !endsPath c)).map fun a =>
        behind scheme a (cs.dropWhile fun c => !isSlash true c && !endsPath c) := by
  unfold withAuthority
  rw [h]
  dsimp only
  cases authorityOf scheme (cs.takeWhile fun c => !isSlash true c && !endsPath c) <;> rfl

theorem exists_of_bind_eq_ok {α β : Type} {x : Except UrlError α} {f : α → Except UrlError β}
    {b : β} (h : x >>= f = .ok b) : ∃ a, x = .ok a ∧ f a = .ok b := by
  cases x with
  | error e => cases h
  | ok a => exact ⟨a, rfl, h⟩

theorem scheme_of_withAuthority {scheme : String} {cs : List Char} {u : Url}
    (h : withAuthority scheme cs = .ok u) : u.scheme = scheme := by
  unfold withAuthority at h
  obtain ⟨a, -, h⟩ := exists_of_bind_eq_ok h
  rw [← Except.ok.inj h]

theorem scheme_of_fileUrl {cs : List Char} {u : Url} (h : fileUrl cs = .ok u) :
    u.scheme = "file" := by
  unfold fileUrl at h
  dsimp only at h
  generalize ite ((cs.takeWhile (isSlash true)).length < 2) _ _ = place at h
  split at h
  · rw [← Except.ok.inj h]
  · obtain ⟨host, -, h⟩ := exists_of_bind_eq_ok h
    rw [← Except.ok.inj h]

/-- A URL that is read has the scheme at the head of its text. -/
theorem scheme_of_afterScheme {scheme : String} {cs : List Char} {u : Url}
    (h : afterScheme scheme cs = .ok u) : u.scheme = scheme := by
  unfold afterScheme at h
  split at h
  · next hfile => rw [scheme_of_fileUrl h, beq_iff_eq.1 hfile]
  · split at h
    · exact scheme_of_withAuthority h
    · split at h
      · exact scheme_of_withAuthority h
      · rw [← Except.ok.inj h]
      · rw [← Except.ok.inj h]

/-- What is below an address is read behind what is read of the address. -/
theorem exists_parse_eq (b : String) : ∃ front, ∀ rest, IsTrailing rest →
    parse (b ++ "/api/v1/" ++ String.ofList rest) =
      match scheme? front with
      | some (scheme, more) => afterScheme scheme (more ++ ("/api/v1".toList ++ '/' :: rest))
      | none => .error .relativeWithoutBase := by
  obtain ⟨front, hfront⟩ := exists_relevant_append b
  refine ⟨front, fun rest hrest => ?_⟩
  have hchars : ∀ c ∈ "/api/v1/".toList ++ rest, isUnreserved c = true ∨ c = '/' :=
    List.forall_mem_append.2 ⟨by simp; decide, hrest.chars⟩
  have hrelevant : relevant (b ++ "/api/v1/" ++ String.ofList rest) =
      front ++ '/' :: ("api/v1".toList ++ '/' :: rest) := by
    have happend : b ++ "/api/v1/" ++ String.ofList rest =
        b ++ String.ofList ("/api/v1/".toList ++ rest) := by
      rw [String.ofList_append, String.ofList_toList, String.append_assoc]
    rw [happend, hfront _ (by simp) hchars]
    simp
  unfold parse
  rw [hrelevant, scheme?_append_slash]
  cases scheme? front with
  | none => rfl
  | some found => simp

/-- Behind the scheme of a URL with a host, what is below an address is behind an authority,
however many slashes there are before that. -/
theorem exists_afterScheme_eq {scheme : String} (hspecial : isSpecialScheme scheme = true)
    (hfile : scheme ≠ "file") (more : List Char) :
    ∃ host cs, (∀ c, cs.head? = some c → isSlash true c = true ∨ endsPath c = true) ∧
      ∀ rest, afterScheme scheme (more ++ ("/api/v1".toList ++ '/' :: rest)) =
        (authorityOf scheme host).map fun a => behind scheme a (cs ++ '/' :: rest) := by
  let inAuthority (c : Char) : Bool := !isSlash true c && !endsPath c
  -- Where there is nothing but slashes, the first step below the address is the host.
  let front := (more ++ ['/']).dropWhile (isSlash true) ++ "api/v1".toList
  refine ⟨front.takeWhile inAuthority, front.dropWhile inAuthority, fun c hc => ?_, fun rest => ?_⟩
  · have hstop := List.head?_dropWhile_not inAuthority front
    rw [hc] at hstop
    simpa [inAuthority, ← Bool.not_eq_true, Classical.or_iff_not_imp_left] using hstop
  · have hslashes : (more ++ ("/api/v1".toList ++ '/' :: rest)).dropWhile (isSlash true) =
        front ++ '/' :: rest := by
      have hsplit : more ++ ("/api/v1".toList ++ '/' :: rest) =
          (more ++ ['/']) ++ 'a' :: ("pi/v1".toList ++ '/' :: rest) := by simp
      rw [hsplit, (takeWhile_append_stop (isSlash true) (c := 'a') rfl _ _).2]
      simp [front]
    obtain ⟨htake, hdrop⟩ := takeWhile_append_stop inAuthority (c := '/') rfl front rest
    unfold afterScheme
    rw [if_neg (by simpa using hfile), if_pos hspecial, withAuthority_eq hspecial, hslashes, htake,
      hdrop]

/-- Where the URL of one text below an address is read, that of each is read, and has the text at
its end. -/
theorem exists_parse_below {b : String} {u : Url} {t : List Char} (ht : IsTrailing t)
    (h : parse (b ++ "/api/v1/" ++ String.ofList t) = .ok u)
    (hscheme : u.scheme = "http" ∨ u.scheme = "https") :
    ∃ a front, u.authority = some a ∧ ∀ rest, IsTrailing rest → ∃ v,
      parse (b ++ "/api/v1/" ++ String.ofList rest) = .ok v ∧ v.scheme = u.scheme ∧
        v.authority = some a ∧ ∀ a' : Authority, ({ v with authority := some a' } : Url).text =
          u.scheme ++ ":" ++ ("//" ++ a'.text) ++ front ++ String.ofList rest := by
  obtain ⟨start, hparse⟩ := exists_parse_eq b
  rw [hparse t ht] at h
  cases hfound : scheme? start with
  | none =>
    rw [hfound] at h
    cases h
  | some found =>
    obtain ⟨scheme, more⟩ := found
    rw [hfound] at h hparse
    dsimp only at h hparse
    obtain rfl := scheme_of_afterScheme h
    have hspecial : isSpecialScheme u.scheme = true := by
      obtain hscheme | hscheme := hscheme <;> rw [hscheme] <;> decide
    have hfile : u.scheme ≠ "file" := by
      obtain hscheme | hscheme := hscheme <;> rw [hscheme] <;> decide
    obtain ⟨host, cs, hhead, hafter⟩ := exists_afterScheme_eq hspecial hfile more
    obtain ⟨front, hfront⟩ := exists_behindText hhead
    rw [hafter] at h
    -- The authority is the same for every text, and so is whether it can be read.
    cases hauthority : authorityOf u.scheme host with
    | error e =>
      rw [hauthority] at h
      cases h
    | ok a =>
      rw [hauthority] at h hafter
      have hu : behind u.scheme a (cs ++ '/' :: t) = u := Except.ok.inj h
      refine ⟨a, front, by rw [← hu]; rfl, fun rest hrest => ?_⟩
      refine ⟨behind u.scheme a (cs ++ '/' :: rest), ?_, rfl, rfl, fun a' => ?_⟩
      · rw [hparse rest hrest, hafter]
        rfl
      · show (behind u.scheme a' (cs ++ '/' :: rest)).text = _
        rw [text_behind, hfront rest hrest, ← String.append_assoc]

/-! ## Steps that stand for themselves -/

/-- Whether a text stands for itself as a step of a path. -/
structure IsStep (s : String) : Prop where
  unreserved : ∀ c ∈ s.toList, isUnreserved c = true
  ne_dot : s ≠ "."
  ne_dots : s ≠ ".."

instance (s : String) : Decidable (IsStep s) :=
  decidable_of_iff (s.toList.all isUnreserved = true ∧ s ≠ "." ∧ s ≠ "..")
    ⟨fun ⟨hchars, hdot, hdots⟩ => ⟨List.all_eq_true.1 hchars, hdot, hdots⟩,
      fun h => ⟨List.all_eq_true.2 h.unreserved, h.ne_dot, h.ne_dots⟩⟩

theorem IsTrailing.nil : IsTrailing [] := ⟨by simp, by decide⟩

theorem IsTrailing.append_slash {cs rest : List Char} (hcs : IsTrailing cs)
    (hrest : IsTrailing rest) : IsTrailing (cs ++ '/' :: rest) where
  chars := List.forall_mem_append.2
    ⟨hcs.chars, List.forall_mem_cons.2 ⟨.inr rfl, hrest.chars⟩⟩
  noDots := by
    rw [rawSteps_append_slash]
    exact List.forall_mem_append.2 ⟨hcs.noDots, hrest.noDots⟩

theorem rawSteps_of_isUnreserved {cs : List Char} (h : ∀ c ∈ cs, isUnreserved c = true) :
    rawSteps true cs = [cs] := by
  induction cs with
  | nil => rfl
  | cons c cs ih =>
    have hslash : isSlash true c = false := by
      by_contra hslash
      have hc := h c List.mem_cons_self
      rw [(isKept_of_isUnreserved (.inl hc)).slash (by simpa using hslash)] at hc
      exact absurd hc (by decide)
    exact rawSteps_cons hslash (ih fun d hd => h d (List.mem_cons_of_mem c hd))

theorem IsStep.isTrailing {s : String} (h : IsStep s) : IsTrailing s.toList where
  chars c hc := .inl (h.unreserved c hc)
  noDots := by
    have hpercent : ∀ c ∈ s.toList, c ≠ '%' := fun c hc =>
      (isKept_of_isUnreserved (.inl (h.unreserved c hc))).ne_percent
    rw [rawSteps_of_isUnreserved h.unreserved, List.forall_mem_singleton]
    constructor
    · intro hone
      exact h.ne_dot (String.toList_injective (eq_replicate_of_dots? hpercent hone))
    · intro htwo
      exact h.ne_dots (String.toList_injective (eq_replicate_of_dots? hpercent htwo))

end AlertSync.Url

namespace AlertSync.Http

open Url (IsTrailing parse)

/-! ## Requests -/

/-- What becomes of an authority in a request, and the credentials of the request, do not depend on
what is behind the authority. -/
theorem exists_bare_eq (a : Authority) : ∃ a' : Authority, ∃ authorization,
    ∀ method (u : Url), u.authority = some a →
      Request.bare method u = ⟨method, { u with authority := some a' }, authorization, none⟩ := by
  have hself (method : Method) (u : Url) (hu : u.authority = some a) :
      (⟨method, u, [], none⟩ : Request) =
        ⟨method, { u with authority := some a }, [], none⟩ := by
    rw [← hu]
  cases huser : Url.percentDecoded? a.user with
  | none =>
    refine ⟨a, [], fun method u hu => ?_⟩
    unfold Request.bare
    simp only [hu, huser]
    exact hself method u hu
  | some user =>
    let password := if a.password == "" then none else Url.percentDecoded? a.password
    by_cases hnone : (user == "" && password.isNone) = true
    · refine ⟨a, [], fun method u hu => ?_⟩
      unfold Request.bare
      simp only [hu, huser]
      rw [if_pos hnone]
      exact hself method u hu
    · refine ⟨{ a with user := "", password := "" },
        [Request.basicAuthorization user (password.getD "")], fun method u hu => ?_⟩
      unfold Request.bare
      simp only [hu, huser]
      rw [if_neg hnone]

/-- A field makes the text of a URL longer by its value. -/
theorem size_text_withField (u : Url) (name value : String) :
    u.text.utf8ByteSize + (Url.formEncode value).utf8ByteSize ≤
      (u.withField name value).text.utf8ByteSize := by
  unfold Url.withField Url.text
  cases u.query with
  | none =>
    simp only [String.utf8ByteSize_append, String.utf8ByteSize_empty]
    omega
  | some q =>
    by_cases hq : q = ""
    · simp only [hq, beq_self_eq_true, if_true, String.utf8ByteSize_append,
        String.utf8ByteSize_empty]
      omega
    · simp only [beq_iff_eq, if_neg hq, String.utf8ByteSize_append]
      omega

/-- What a request takes from a URL does not depend on the fields of the query. -/
theorem url_bare_withField (method : Method) (u : Url) (name value : String) :
    (Request.bare method (u.withField name value)).url =
      (Request.bare method u).url.withField name value := by
  cases hu : u.authority with
  | none =>
    have hu' : (u.withField name value).authority = none := hu
    unfold Request.bare
    simp only [hu, hu']
  | some a =>
    obtain ⟨a', authorization, hbare⟩ := exists_bare_eq a
    rw [hbare method u hu, hbare method (u.withField name value) hu]
    rfl

theorem scheme_bare (method : Method) (u : Url) :
    (Request.bare method u).url.scheme = u.scheme := by
  cases hu : u.authority with
  | none =>
    unfold Request.bare
    simp only [hu]
  | some a =>
    obtain ⟨a', authorization, hbare⟩ := exists_bare_eq a
    rw [hbare method u hu]

/-- Where requests can be sent to one address below another, with a field or without, they can be
sent to all that are not too long. -/
theorem exists_requests_below {b : String} {u : Url} {t : List Char} (ht : IsTrailing t)
    (h : parse (b ++ "/api/v1/" ++ String.ofList t) = .ok u) {m : Method} {name value : String}
    (hhttp : (Request.bare m (u.withField name value)).url.isHttp = true) :
    ∃ front, ∀ rest, IsTrailing rest → ∃ v,
      parse (b ++ "/api/v1/" ++ String.ofList rest) = .ok v ∧ ∀ method,
        (Request.bare method v).method = method ∧
        (Request.bare method v).url.text = front ++ String.ofList rest ∧
        ((front ++ String.ofList rest).utf8ByteSize < 65535 →
          (Request.bare method v).url.isHttp = true) := by
  have hfits := hhttp
  unfold Url.isHttp at hfits
  simp only [Bool.and_eq_true, Bool.or_eq_true, beq_iff_eq, scheme_bare] at hfits
  obtain ⟨⟨hscheme, hhost⟩, -⟩ := hfits
  change u.scheme = "http" ∨ u.scheme = "https" at hscheme
  obtain ⟨a, front, hu, hbelow⟩ := Url.exists_parse_below ht h hscheme
  obtain ⟨a', authorization, hbare⟩ := exists_bare_eq a
  rw [hbare m (u.withField name value) hu] at hhost
  have hhost' : a'.host.fitsRequest = true := by simpa using hhost
  refine ⟨u.scheme ++ ":" ++ ("//" ++ a'.text) ++ front, fun rest hrest => ?_⟩
  obtain ⟨v, hparse, hv, hauthority, htext⟩ := hbelow rest hrest
  refine ⟨v, hparse, fun method => ?_⟩
  rw [hbare method v hauthority]
  refine ⟨rfl, htext a', fun hsize => ?_⟩
  unfold Url.isHttp
  rw [htext a', decide_eq_true hsize, hv]
  simpa [hhost'] using hscheme

end AlertSync.Http
