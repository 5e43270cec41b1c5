import AlertSync.Backend.Alerting
import AlertSync.Proofs.Addresses
import AlertSync.Proofs.Payload.RoundTrip
import AlertSync.Proofs.Sample
import Mathlib

/-!
# Removing silences

To remove the silences for an alert, the backend is asked once which there are, and then to remove
those that are active, one request for each, up to the first that it does not answer with success.
How far this goes (`successes`) decides what is asked for, what it comes to, and which silences
have expired (`removeSilence_resumes`). Nothing is remembered of a removal that broke off: what is
left is found by listing the silences again.

An id stands in an address as it is if it has no characters that are encoded, and is no dots. Ids of
the length of those that the backend issues are never too long (`isAddressable_of_size_le`).
-/

namespace AlertSync.AlertingBackend

open Http Conversation

variable {σ : Type}

/-! ## Requests and answers -/

/-- The request for the silences of an alert, if it can be sent. -/
def listing? (base : String) (a : Alert) : Option Request :=
  match Url.parse (baseOf base ++ "/api/v1/silences") with
  | .ok u =>
    let r := Request.bare .get (u.withField "filter" (silenceFilter a))
    if r.url.isHttp then some r else none
  | .error _ => none

/-- The answer of a peer, if there is one and its status tells of success. -/
def accepted? (answer : Option Response) : Option Response :=
  answer.filter fun response => isSuccess response.status

/-- Whether there is an answer with a status that tells of success. -/
def succeeded (answer : Option Response) : Bool := (accepted? answer).isSome

/-- What is in the envelope of a response, if it can be read and tells of success. -/
def opened? {α : Type} (read : Form → Option α) (default : α) (response : Response) : Option α :=
  ((Json.form? response.body).bind (Envelope.ofForm? read)).bind fun e =>
    if e.status == "success" then some (e.data.getD default) else none

/-- The silences that an answer lists, if its status and its envelope tell of success. -/
def listed? (answer : Option Response) : Option (List Silence) :=
  (accepted? answer).bind (opened? (Form.list? Silence.ofForm?) [])

/-- The text of the address of a silence, in the form in which it is sent. -/
def addressOf (base : String) (id : String) : String :=
  (match Url.parse (baseOf base ++ "/api/v1/") with
    | .ok u => (Request.bare .get u).url.text
    | .error _ => "") ++ "silence/" ++ id

/-- Whether the id of a silence can stand in an address, as it is, and a request be sent there. -/
structure IsAddressable (base : String) (id : String) : Prop where
  isStep : Url.IsStep id
  fits : (addressOf base id).utf8ByteSize < 65535

/-- Whether a request is the one by which a silence is removed. -/
structure Removes (base : String) (s : Silence) (r : Request) : Prop where
  isBare : ∃ url, Url.parse (baseOf base ++ "/api/v1/silence/" ++ s.id) = .ok url ∧
    r = .bare .delete url
  method : r.method = .delete
  text : r.url.text = addressOf base s.id

/-- What becomes of the removal of some active silences with a peer that removes the first so many
of them: those are asked for, and the next if there is one; it succeeds if there is none. -/
def GoesAsFarAs (k : Nat) (base : String) (get : Request) (active : List Silence)
    (result : Except Error Unit) (sent : List Request) : Prop :=
  ∃ removals, List.Forall₂ (Removes base) active removals ∧
    sent = get :: removals.take (k + 1) ∧ (result = .ok () ↔ active.length ≤ k)

/-- A peer with the requests that it got. -/
def recorded (peer : Request → σ → Option Response × σ) (r : Request) (s : σ × List Request) :
    Option Response × σ × List Request :=
  ((peer r s.1).1, (peer r s.1).2, s.2 ++ [r])

/-- How many of some requests a peer answers with success, up to the first that it does not, and
what has become of it then. -/
def successes (peer : Request → σ → Option Response × σ) : List Request → σ → Nat × σ
  | [], t => (0, t)
  | r :: rs, t =>
    let (answer, t') := peer r t
    if succeeded answer then
      let (k, t'') := successes peer rs t'
      (k + 1, t'')
    else (0, t')

variable {base : String} {a : Alert} {get : Request} {s : Silence} {r : Request}
  {peer : Request → σ → Option Response × σ} {t : σ}

/-! ## One request -/

theorem listing?_eq_some_iff : listing? base a = some get ↔
    ∃ u, Url.parse (baseOf base ++ "/api/v1/silences") = .ok u ∧
      get = .bare .get (u.withField "filter" (silenceFilter a)) ∧ get.url.isHttp = true := by
  unfold listing?
  cases Url.parse (baseOf base ++ "/api/v1/silences") with
  | error e => simp
  | ok u =>
    have hsome (r : Request) : (if r.url.isHttp then some r else none) = some get ↔
        get = r ∧ get.url.isHttp = true := by
      by_cases hhttp : r.url.isHttp = true
      · rw [if_pos hhttp, Option.some.injEq]
        exact ⟨fun h => ⟨h.symm, h ▸ hhttp⟩, fun h => h.1.symm⟩
      · rw [if_neg hhttp]
        refine ⟨nofun, ?_⟩
        rintro ⟨rfl, h⟩
        exact absurd h hhttp
    simp [hsome]

/-- Where the silences can be asked for, requests can be sent to what is served beside them. -/
theorem exists_requests (hget : listing? base a = some get) : ∃ u front,
    get = .bare .get (u.withField "filter" (silenceFilter a)) ∧ get.url.isHttp = true ∧
    (Request.bare .get u).url.text = front ++ "silences" ∧
    (∀ id, addressOf base id = front ++ "silence/" ++ id) ∧
    ∀ id, Url.IsStep id → ∃ v, Url.parse (baseOf base ++ "/api/v1/silence/" ++ id) = .ok v ∧
      (Request.bare .delete v).method = .delete ∧
      (Request.bare .delete v).url.text = addressOf base id ∧
      ((addressOf base id).utf8ByteSize < 65535 →
        (Request.bare .delete v).url.isHttp = true) := by
  have hlist : baseOf base ++ "/api/v1/silences" =
      baseOf base ++ "/api/v1/" ++ String.ofList "silences".toList := by
    rw [String.append_assoc]
    rfl
  have hone (id : String) : baseOf base ++ "/api/v1/silence/" ++ id =
      baseOf base ++ "/api/v1/" ++ String.ofList ("silence".toList ++ '/' :: id.toList) := by
    rw [← String.toList_inj]
    simp
  have hstep : Url.IsStep "silences" := by decide
  have hfirst : Url.IsStep "silence" := by decide
  obtain ⟨u, hu, hbare, hhttp⟩ := listing?_eq_some_iff.1 hget
  rw [hlist] at hu
  rw [hbare] at hhttp
  obtain ⟨front, hbelow⟩ := exists_requests_below hstep.isTrailing hu hhttp
  have hfront : ∀ id, addressOf base id = front ++ "silence/" ++ id := by
    intro id
    obtain ⟨v, hparse, hv⟩ := hbelow [] .nil
    obtain ⟨-, htext, -⟩ := hv .get
    rw [String.ofList_nil, String.append_empty] at hparse htext
    unfold addressOf
    rw [hparse]
    dsimp only
    rw [htext]
  refine ⟨u, front, hbare, hbare ▸ hhttp, ?_, hfront, fun id hid => ?_⟩
  · obtain ⟨v, hparse, hv⟩ := hbelow _ hstep.isTrailing
    obtain rfl : u = v := Except.ok.inj (hu.symm.trans hparse)
    obtain ⟨-, htext, -⟩ := hv .get
    exact htext
  · obtain ⟨v, hparse, hv⟩ := hbelow _ (hfirst.isTrailing.append_slash hid.isTrailing)
    obtain ⟨hmethod, htext, hsize⟩ := hv .delete
    have haddress : addressOf base id =
        front ++ String.ofList ("silence".toList ++ '/' :: id.toList) := by
      rw [hfront, ← String.toList_inj]
      simp
    rw [← haddress] at htext hsize
    exact ⟨v, (congrArg Url.parse (hone id)).trans hparse, hmethod, htext, hsize⟩

/-- Where the silences can be asked for, each that is addressable can be removed. -/
theorem exists_removes (hget : listing? base a = some get) (h : IsAddressable base s.id) :
    ∃ r, Removes base s r ∧ r.url.isHttp = true := by
  obtain ⟨_, _, -, -, -, -, hremove⟩ := exists_requests hget
  obtain ⟨v, hparse, hmethod, htext, hhttp⟩ := hremove s.id h.isStep
  exact ⟨_, ⟨⟨v, hparse, rfl⟩, hmethod, htext⟩, hhttp h.fits⟩

/-- The filter of an alert is not short. -/
theorem le_size_formEncode_silenceFilter (a : Alert) :
    46 ≤ (Url.formEncode (silenceFilter a)).utf8ByteSize := by
  have hfilter : silenceFilter a = "\x7balert_id=\"" ++
      (String.ofList (a.id.toList.flatMap Text.quoteChar) ++ ("\",environment=\"" ++
        (String.ofList (a.environment.toList.flatMap Text.quoteChar) ++ "\"\x7d"))) := by
    rw [← String.toList_inj]
    simp [silenceFilter, matchers, Text.quote, Text.quoteChars]
  have happend (x y : String) : Url.formEncode (x ++ y) = Url.formEncode x ++ Url.formEncode y := by
    unfold Url.formEncode
    rw [String.toList_append, List.flatMap_append, String.ofList_append]
  have hstart : (Url.formEncode "\x7balert_id=\"").utf8ByteSize = 17 := by decide +kernel
  have hmiddle : (Url.formEncode "\",environment=\"").utf8ByteSize = 23 := by decide +kernel
  have hend : (Url.formEncode "\"\x7d").utf8ByteSize = 6 := by decide +kernel
  rw [hfilter, happend, happend, happend, happend]
  simp only [String.utf8ByteSize_append, hstart, hmiddle, hend]
  omega

/-- Where the silences can be asked for, an id of no more than 46 characters fits into an address:
the address for all of them is not shorter, since it has the filter. -/
theorem isAddressable_of_size_le (hget : listing? base a = some get) {id : String}
    (hstep : Url.IsStep id) (hsize : id.utf8ByteSize ≤ 46) : IsAddressable base id := by
  obtain ⟨u, front, rfl, hhttp, htext, haddress, -⟩ := exists_requests hget
  refine ⟨hstep, ?_⟩
  have hshort : ((Request.bare .get u).url.withField "filter"
      (silenceFilter a)).text.utf8ByteSize < 65535 := by
    rw [← url_bare_withField]
    unfold Url.isHttp at hhttp
    exact of_decide_eq_true (Bool.and_eq_true_iff.1 hhttp).2
  have hfield := size_text_withField (Request.bare .get u).url "filter" (silenceFilter a)
  have hfilter := le_size_formEncode_silenceFilter a
  have hlast : "silences".utf8ByteSize = 8 := by decide
  have hstart : "silence/".utf8ByteSize = 8 := by decide
  rw [htext, String.utf8ByteSize_append] at hfield
  rw [haddress, String.utf8ByteSize_append, String.utf8ByteSize_append]
  omega

/-- A request that is sent comes to an answer that tells of success, or to an error. -/
theorem exists_outcome_succeed (peer : Request → σ → Option Response × σ)
    (hhttp : r.url.isHttp = true) (t : σ) (log : List Request) :
    ∃ e, (Conversation.succeed r).outcome (recorded peer) (t, log) =
      ((accepted? (peer r t).1).elim (.error e) .ok, (peer r t).2, log ++ [r]) := by
  unfold Conversation.succeed
  rw [outcome_bind]
  have hsend : (Conversation.send r).outcome (recorded peer) (t, log) =
      ((peer r t).1.elim (.error (.http .request)) .ok, (peer r t).2, log ++ [r]) := by
    unfold Conversation.send Conversation.outcome
    rw [if_pos hhttp]
    cases hanswer : (peer r t).1 <;>
      simp only [ExceptT.run_mk, Exchange.run, recorded, hanswer] <;> rfl
  rw [hsend]
  cases (peer r t).1 with
  | none => exact ⟨_, rfl⟩
  | some response =>
    refine ⟨.rejected r.url.text (statusText response.status) (Text.trim response.body), ?_⟩
    unfold accepted?
    rw [Option.filter_some]
    dsimp only [Option.elim]
    by_cases hsuccess : isSuccess response.status
    · rw [if_pos hsuccess, if_pos hsuccess]
      rfl
    · rw [if_neg hsuccess, if_neg hsuccess]
      rfl

/-- A response is opened, or there is an error. -/
theorem exists_outcome_opened {α : Type} (read : Form → Option α) (default : α)
    (response : Response) (peer : Request → σ → Option Response × σ) (t : σ) :
    ∃ e, (opened read default response).outcome peer t =
      ((opened? read default response).elim (.error e) .ok, t) := by
  unfold opened opened? Conversation.value
  rw [outcome_bind]
  cases (Json.form? response.body).bind (Envelope.ofForm? read) with
  | none => exact ⟨_, rfl⟩
  | some envelope =>
    refine ⟨.unsuccessful envelope.status (envelope.reason.getD ""), ?_⟩
    dsimp only [Option.bind_some]
    rw [outcome_pure]
    dsimp only
    split <;> rfl

/-- The silences are listed if the answer lists them, and there is an error otherwise. -/
theorem exists_outcome_silencesOf (hget : listing? base a = some get)
    (peer : Request → σ → Option Response × σ) (t : σ) (log : List Request) :
    ∃ e, (silencesOf base a).outcome (recorded peer) (t, log) =
      ((listed? (peer get t).1).elim (.error e) .ok, (peer get t).2, log ++ [get]) := by
  obtain ⟨u, hu, rfl, hhttp⟩ := listing?_eq_some_iff.1 hget
  obtain ⟨e, he⟩ := exists_outcome_succeed peer hhttp t log
  unfold silencesOf silencesUrl urlOf
  rw [hu, outcome_bind, outcome_pure]
  dsimp only
  rw [outcome_bind, he]
  unfold listed?
  cases accepted? _ with
  | none => exact ⟨e, rfl⟩
  | some response => exact exists_outcome_opened ..

/-- A silence is removed exactly if the peer answers with success. -/
theorem exists_outcome_expire (hr : Removes base s r) (hhttp : r.url.isHttp = true)
    (peer : Request → σ → Option Response × σ) (t : σ) (log : List Request) :
    ∃ e, (expire base s).outcome (recorded peer) (t, log) =
      (if succeeded (peer r t).1 then .ok () else .error e, (peer r t).2, log ++ [r]) := by
  obtain ⟨url, hparse, rfl⟩ := hr.isBare
  obtain ⟨e, he⟩ := exists_outcome_succeed peer hhttp t log
  refine ⟨e, ?_⟩
  unfold expire urlOf
  rw [hparse, outcome_bind, outcome_pure]
  dsimp only
  rw [outcome_bind, he]
  unfold succeeded
  cases accepted? _ <;> rfl

/-! ## One removal after the other -/

theorem expireAll_cons_of_active (h : s.isActive = true) (rest : List Silence) :
    expireAll base (s :: rest) = expire base s >>= fun _ => expireAll base rest := by
  rw [expireAll, if_pos h]

theorem expireAll_cons_of_inactive (h : s.isActive = false) (rest : List Silence) :
    expireAll base (s :: rest) = expireAll base rest := by
  rw [expireAll, if_neg (by simp [h])]

theorem successes_of_succeeded (h : succeeded (peer r t).1 = true) (rs : List Request) :
    successes peer (r :: rs) t =
      ((successes peer rs (peer r t).2).1 + 1, (successes peer rs (peer r t).2).2) := by
  rw [successes]
  exact if_pos h

theorem successes_of_not_succeeded (h : succeeded (peer r t).1 = false) (rs : List Request) :
    successes peer (r :: rs) t = (0, (peer r t).2) := by
  rw [successes]
  exact if_neg (by simp [h])

theorem successes_le (peer : Request → σ → Option Response × σ) (rs : List Request) (t : σ) :
    (successes peer rs t).1 ≤ rs.length := by
  induction rs generalizing t with
  | nil => exact Nat.le_refl 0
  | cons r rs ih =>
    cases h : succeeded (peer r t).1 with
    | true =>
      have hrest := ih (peer r t).2
      rw [successes_of_succeeded h, List.length_cons]
      omega
    | false =>
      rw [successes_of_not_succeeded h]
      exact Nat.zero_le _

/-- Of some silences the active ones are removed, up to the first that the peer does not remove. -/
theorem exists_outcome_expireAll (l : List Silence) {rs : List Request}
    (hrs : List.Forall₂ (fun s r => Removes base s r ∧ r.url.isHttp = true)
      (l.filter Silence.isActive) rs) (peer : Request → σ → Option Response × σ) (t : σ)
    (log : List Request) :
    ∃ result, (expireAll base l).outcome (recorded peer) (t, log) =
        (result, (successes peer rs t).2, log ++ rs.take ((successes peer rs t).1 + 1)) ∧
      (result = .ok () ↔ rs.length ≤ (successes peer rs t).1) := by
  induction l generalizing rs t log with
  | nil =>
    obtain rfl := List.forall₂_nil_left_iff.1 hrs
    refine ⟨.ok (), ?_, by simp⟩
    rw [List.take_nil, List.append_nil]
    rfl
  | cons s l ih =>
    cases hactive : s.isActive with
    | false =>
      rw [List.filter_cons_of_neg (by simp [hactive])] at hrs
      rw [expireAll_cons_of_inactive hactive]
      exact ih hrs t log
    | true =>
      rw [List.filter_cons_of_pos hactive] at hrs
      obtain ⟨r, rs, ⟨hr, hhttp⟩, hrest, rfl⟩ := List.forall₂_cons_left_iff.1 hrs
      obtain ⟨e, he⟩ := exists_outcome_expire hr hhttp peer t log
      rw [expireAll_cons_of_active hactive, outcome_bind, he]
      -- The others are removed only if this one is.
      cases h : succeeded (peer r t).1 with
      | true =>
        obtain ⟨result, houtcome, hresult⟩ := ih hrest (peer r t).2 (log ++ [r])
        refine ⟨result, ?_, ?_⟩
        · rw [successes_of_succeeded h, if_pos rfl, List.take_succ_cons]
          refine houtcome.trans ?_
          rw [List.append_assoc, List.singleton_append]
        · rw [successes_of_succeeded h, hresult, List.length_cons]
          exact Nat.succ_le_succ_iff.symm
      | false =>
        refine ⟨.error e, ?_, ?_⟩
        · rw [successes_of_not_succeeded h, if_neg (by decide)]
          rfl
        · rw [successes_of_not_succeeded h, List.length_cons]
          exact iff_of_false nofun (by omega)

/-! ## The whole removal -/

/-- Where the silences are not listed, nothing is removed, and the removal fails. -/
theorem exists_outcome_of_not_listed (hget : listing? base a = some get)
    (h : listed? (peer get t).1 = none) : ∃ e,
      (removeSilence base a).outcome (recorded peer) (t, []) =
        (.error e, (peer get t).2, [get]) := by
  obtain ⟨e, he⟩ := exists_outcome_silencesOf hget peer t []
  refine ⟨e, ?_⟩
  unfold removeSilence
  rw [outcome_bind, he, h]
  rfl

/-- The requests that a removal has for the active ones of some silences. -/
theorem exists_removals (hget : listing? base a = some get) {l : List Silence}
    (h : ∀ s ∈ l, IsAddressable base s.id) :
    ∃ rs, List.Forall₂ (fun s r => Removes base s r ∧ r.url.isHttp = true) l rs := by
  induction l with
  | nil => exact ⟨[], .nil⟩
  | cons s l ih =>
    obtain ⟨r, hr⟩ := exists_removes hget (h s List.mem_cons_self)
    obtain ⟨rs, hrs⟩ := ih fun s hs => h s (List.mem_cons_of_mem _ hs)
    exact ⟨r :: rs, .cons hr hrs⟩

/-- Where silences are listed, the active ones are removed, up to the first that the peer does not
remove. -/
theorem exists_outcome_of_listed (hget : listing? base a = some get) {l : List Silence}
    (h : listed? (peer get t).1 = some l)
    (hl : ∀ s ∈ l, s.isActive = true → IsAddressable base s.id) :
    ∃ rs result, List.Forall₂ (Removes base) (l.filter Silence.isActive) rs ∧
      (removeSilence base a).outcome (recorded peer) (t, []) =
        (result, (successes peer rs (peer get t).2).2,
          get :: rs.take ((successes peer rs (peer get t).2).1 + 1)) ∧
      (result = .ok () ↔ rs.length ≤ (successes peer rs (peer get t).2).1) := by
  obtain ⟨e, he⟩ := exists_outcome_silencesOf hget peer t []
  obtain ⟨rs, hrs⟩ := exists_removals hget (l := l.filter Silence.isActive) fun s hs =>
    hl s (List.mem_filter.1 hs).1 (List.mem_filter.1 hs).2
  obtain ⟨result, houtcome, hresult⟩ :=
    exists_outcome_expireAll l hrs peer (peer get t).2 [get]
  refine ⟨rs, result, hrs.imp fun _ _ h => h.1, ?_, hresult⟩
  unfold removeSilence
  rw [outcome_bind, he, h]
  exact houtcome

/-! ## Peers that hold silences -/

/-- A silence that has expired if its id is one of some. -/
def Silence.expiredIn (ids : List String) (s : Silence) : Silence :=
  if s.id ∈ ids then { s with state := "expired" } else s

/-- A peer that holds silences with different ids, which can all stand in an address. It lists those
that are selected, and a silence expires exactly if its removal is answered with success. -/
structure Keeps (base : String) (get : Request) (peer : Request → σ → Option Response × σ)
    (held : σ → List Silence) (selected : String → Bool) : Prop where
  nodup : ∀ t, ((held t).map Silence.id).Nodup
  isAddressable : ∀ t, ∀ s ∈ held t, IsAddressable base s.id
  listing : ∀ t, held (peer get t).2 = held t
  lists : ∀ t l, listed? (peer get t).1 = some l →
    l.Perm ((held t).filter fun s => selected s.id)
  removal : ∀ t r, ∀ s ∈ held t, r.method = .delete → r.url.text = addressOf base s.id →
    held (peer r t).2 =
      if succeeded (peer r t).1 then (held t).map (Silence.expiredIn [s.id]) else held t

theorem Silence.id_expiredIn (ids : List String) (s : Silence) : (s.expiredIn ids).id = s.id := by
  unfold expiredIn
  split <;> rfl

theorem Silence.expiredIn_of_not_mem {ids : List String} (h : s.id ∉ ids) :
    s.expiredIn ids = s := if_neg h

theorem Silence.expiredIn_expiredIn (id : String) (ids : List String) (s : Silence) :
    (s.expiredIn [id]).expiredIn ids = s.expiredIn (id :: ids) := by
  by_cases hid : s.id = id
  · by_cases hids : s.id ∈ ids <;> simp [expiredIn, hid]
  · have hone : s.expiredIn [id] = s := expiredIn_of_not_mem (by simpa using hid)
    rw [hone]
    simp [expiredIn, hid]

theorem Silence.isActive_expiredIn (ids : List String) (s : Silence) :
    (s.expiredIn ids).isActive = (s.isActive && !ids.contains s.id) := by
  by_cases hids : s.id ∈ ids
  · simp [expiredIn, isActive, hids]
  · rw [expiredIn_of_not_mem hids]
    simp [hids]

variable {held : σ → List Silence} {selected : String → Bool}

/-- Of the silences whose removals are asked for one after the other, those have expired of which
the removals succeeded. -/
theorem held_successes (hkeeps : Keeps base get peer held selected) {active : List Silence}
    {rs : List Request} (hrs : List.Forall₂ (Removes base) active rs) (t : σ)
    (hactive : ∀ s ∈ active, s.id ∈ (held t).map Silence.id) :
    held (successes peer rs t).2 =
      (held t).map (Silence.expiredIn ((active.take (successes peer rs t).1).map Silence.id)) := by
  have hnone (l : List Silence) : l.map (Silence.expiredIn []) = l :=
    (List.map_congr_left fun s _ => Silence.expiredIn_of_not_mem List.not_mem_nil).trans
      (List.map_id l)
  -- Each request that succeeds leaves a peer that holds silences with the same ids.
  induction hrs generalizing t with
  | nil => exact (hnone (held t)).symm
  | @cons s r active rs hr _ ih =>
    obtain ⟨s', hs', hid⟩ := List.mem_map.1 (hactive s List.mem_cons_self)
    have hremoval := hkeeps.removal t r s' hs' hr.method (by rw [hr.text, hid])
    rw [hid] at hremoval
    cases h : succeeded (peer r t).1 with
    | true =>
      rw [h, if_pos rfl] at hremoval
      have hids : (held (peer r t).2).map Silence.id = (held t).map Silence.id := by
        rw [hremoval, List.map_map]
        exact List.map_congr_left fun s _ => s.id_expiredIn _
      rw [successes_of_succeeded h, ih (peer r t).2, hremoval, List.map_map]
      · exact List.map_congr_left fun s _ => s.expiredIn_expiredIn ..
      · intro s hs
        rw [hids]
        exact hactive s (List.mem_cons_of_mem _ hs)
    | false =>
      rw [h, if_neg (by decide)] at hremoval
      rw [successes_of_not_succeeded h, hremoval]
      exact (hnone (held t)).symm

/-- Without the first so many of some silences with different ids, the others are left. -/
theorem filter_not_mem_take {l : List Silence} (h : (l.map Silence.id).Nodup) (k : Nat) :
    l.filter (fun s => !((l.take k).map Silence.id).contains s.id) = l.drop k := by
  have hsplit : l.take k ++ l.drop k = l := List.take_append_drop k l
  have htake : (l.take k).filter (fun s => !((l.take k).map Silence.id).contains s.id) = [] := by
    refine List.filter_eq_nil_iff.2 fun s hs => ?_
    have hmem : s.id ∈ (l.take k).map Silence.id := List.mem_map_of_mem hs
    simp only [List.contains_iff_mem.2 hmem, Bool.not_true, Bool.false_eq_true, not_false_eq_true]
  have hdrop : (l.drop k).filter (fun s => !((l.take k).map Silence.id).contains s.id) =
      l.drop k := by
    -- Here it counts that the ids are different.
    refine List.filter_eq_self.2 fun s hs => ?_
    rw [← hsplit, List.map_append] at h
    have hdisjoint := (List.nodup_append.1 h).2.2
    have hnot : s.id ∉ (l.take k).map Silence.id := fun hmem =>
      hdisjoint _ hmem _ (List.mem_map_of_mem hs) rfl
    simpa using hnot
  calc l.filter (fun s => !((l.take k).map Silence.id).contains s.id)
      = (l.take k ++ l.drop k).filter
          (fun s => !((l.take k).map Silence.id).contains s.id) := by rw [hsplit]
    _ = l.drop k := by rw [List.filter_append, htake, hdrop, List.nil_append]

/-- Once some silences have expired, the active ones are those that were active and are none of
them. -/
theorem filter_isActive_expiredIn (ids : List String) (l : List Silence) :
    ((l.map (Silence.expiredIn ids)).filter fun s => selected s.id).filter Silence.isActive =
      ((l.filter fun s => selected s.id).filter Silence.isActive).filter
        (fun s => !ids.contains s.id) := by
  have hselected : (fun s : Silence => selected s.id) ∘ (Silence.expiredIn ids) =
      fun s => selected s.id := funext fun s => congrArg selected (s.id_expiredIn ids)
  have hactive : Silence.isActive ∘ (Silence.expiredIn ids) =
      fun s => !ids.contains s.id && s.isActive :=
    funext fun s => (s.isActive_expiredIn ids).trans (Bool.and_comm ..)
  have hself : ∀ s ∈ ((l.filter fun s => selected s.id).filter Silence.isActive).filter
      (fun s : Silence => !ids.contains s.id), s.expiredIn ids = s := by
    intro s hs
    have hnot := (List.mem_filter.1 hs).2
    exact Silence.expiredIn_of_not_mem (by simpa using hnot)
  rw [List.filter_map, hselected, List.filter_map, hactive, ← List.filter_filter,
    List.map_congr_left hself, List.map_id']

/-- What is left to be removed are the silences whose removals did not succeed. -/
theorem filter_expiredIn_perm {l l' shelf : List Silence} {k : Nat}
    (hnodup : (shelf.map Silence.id).Nodup)
    (hl : l.Perm (shelf.filter fun s => selected s.id))
    (hl' : l'.Perm ((shelf.map (Silence.expiredIn
      (((l.filter Silence.isActive).take k).map Silence.id))).filter fun s => selected s.id)) :
    (l'.filter Silence.isActive).Perm ((l.filter Silence.isActive).drop k) := by
  have hactive := hl.filter Silence.isActive
  have hids : ((l.filter Silence.isActive).map Silence.id).Nodup := by
    have hsub : ((shelf.filter fun s => selected s.id).filter Silence.isActive).Sublist shelf :=
      List.filter_sublist.trans List.filter_sublist
    exact (hactive.map Silence.id).nodup_iff.2 (hnodup.sublist (hsub.map Silence.id))
  have hleft := hl'.filter Silence.isActive
  rw [filter_isActive_expiredIn] at hleft
  rw [← filter_not_mem_take hids k]
  exact hleft.trans (hactive.symm.filter _)

/-! ## What a removal comes to -/

/-- A peer that gives one answer after the other, and none after the last. -/
def inTurn (_ : Request) (answers : List (Option Response)) :
    Option Response × List (Option Response) :=
  (answers.head?.join, answers.tail)

example : recorded inTurn = scripted := rfl

/-- What the removal of the silences for an alert comes to with a peer, what has become of the peer,
and the requests that it got. -/
def removal (base : String) (a : Alert) (peer : Request → σ → Option Response × σ) (t : σ) :
    Except Error Unit × σ × List Request :=
  (removeSilence base a).outcome (recorded peer) (t, [])

/-- Of answers in turn, those tell of success that come before the first that does not. -/
theorem successes_inTurn (rs : List Request) (answers : List (Option Response)) :
    (successes inTurn rs answers).1 = min rs.length (answers.takeWhile succeeded).length := by
  induction rs generalizing answers with
  | nil => exact (Nat.zero_min _).symm
  | cons r rs ih =>
    cases answers with
    | nil => rfl
    | cons answer answers =>
      cases h : succeeded answer with
      | true =>
        rw [successes_of_succeeded h, List.takeWhile_cons_of_pos h]
        show (successes inTurn rs answers).1 + 1 = _
        rw [ih answers, List.length_cons, List.length_cons, Nat.succ_min_succ]
      | false =>
        rw [successes_of_not_succeeded h, List.takeWhile_cons_of_neg (by simp [h])]
        exact (Nat.min_zero _).symm

/-- A removal goes as far as the peer answers with success. -/
theorem exists_goesAsFarAs (hget : listing? base a = some get) {l : List Silence}
    (h : listed? (peer get t).1 = some l)
    (hl : ∀ s ∈ l, s.isActive = true → IsAddressable base s.id) :
    ∃ rs, List.Forall₂ (Removes base) (l.filter Silence.isActive) rs ∧
      (removal base a peer t).2.1 = (successes peer rs (peer get t).2).2 ∧
      ∀ k, (successes peer rs (peer get t).2).1 = min rs.length k →
        GoesAsFarAs k base get (l.filter Silence.isActive) (removal base a peer t).1
          (removal base a peer t).2.2 := by
  obtain ⟨rs, result, hrs, houtcome, hresult⟩ := exists_outcome_of_listed hget h hl
  unfold removal
  rw [houtcome]
  -- Further answers of success than there are removals make no difference.
  refine ⟨rs, hrs, rfl, fun k hk => ⟨rs, hrs, ?_, ?_⟩⟩
  · have htake : rs.take (min rs.length k + 1) = rs.take (k + 1) := by
      obtain hle | hlt := le_or_gt rs.length k
      · rw [Nat.min_eq_left hle, List.take_of_length_le (Nat.le_succ _),
          List.take_of_length_le (Nat.le_succ_of_le hle)]
      · rw [Nat.min_eq_right (Nat.le_of_lt hlt)]
    rw [hk, htake]
  · rw [hresult, hk, hrs.length_eq]
    omega

/-- What the removal of silences comes to with each sequence of answers: if the first does not list
silences it fails, and otherwise it goes as far as the others tell of success. -/
structure IsExact (base : String) (a : Alert) (get : Request) : Prop where
  unlisted : ∀ answers, listed? answers.head?.join = none →
    (removal base a inTurn answers).1 ≠ .ok () ∧ (removal base a inTurn answers).2.2 = [get]
  listed : ∀ answers l, listed? answers.head?.join = some l →
    (∀ s ∈ l, s.isActive = true → IsAddressable base s.id) →
    GoesAsFarAs (answers.tail.takeWhile succeeded).length base get (l.filter Silence.isActive)
      (removal base a inTurn answers).1 (removal base a inTurn answers).2.2

/-- What a removal comes to with a peer that holds silences, of which those that are selected are
listed: if it succeeds none of these is active any more. Where it broke off, those before have
expired, and the active ones that are listed then are the others. -/
structure IsResumable (base : String) (a : Alert) (get : Request)
    (peer : Request → σ → Option Response × σ) (held : σ → List Silence)
    (selected : String → Bool) (t : σ) : Prop where
  complete : (removal base a peer t).1 = .ok () →
    ∀ s ∈ held (removal base a peer t).2.1, selected s.id = true → s.isActive = false
  resumes : ∀ l, listed? (peer get t).1 = some l → ∃ k,
    GoesAsFarAs k base get (l.filter Silence.isActive) (removal base a peer t).1
      (removal base a peer t).2.2 ∧
    held (removal base a peer t).2.1 =
      (held t).map (Silence.expiredIn (((l.filter Silence.isActive).take k).map Silence.id)) ∧
    ∀ l', listed? (peer get (removal base a peer t).2.1).1 = some l' →
      (l'.filter Silence.isActive).Perm ((l.filter Silence.isActive).drop k) ∧
      ∃ k', GoesAsFarAs k' base get (l'.filter Silence.isActive)
        (removal base a peer (removal base a peer t).2.1).1
        (removal base a peer (removal base a peer t).2.1).2.2

/-- With a peer that holds silences, the silences have expired whose removals succeeded. -/
theorem exists_goesAsFarAs_of_keeps (hget : listing? base a = some get)
    (hkeeps : Keeps base get peer held selected) {l : List Silence}
    (h : listed? (peer get t).1 = some l) : ∃ k,
      GoesAsFarAs k base get (l.filter Silence.isActive) (removal base a peer t).1
        (removal base a peer t).2.2 ∧
      held (removal base a peer t).2.1 =
        (held t).map (Silence.expiredIn (((l.filter Silence.isActive).take k).map Silence.id)) := by
  have hmem : ∀ s ∈ l, s ∈ held t := fun s hs =>
    (List.mem_filter.1 ((hkeeps.lists t l h).mem_iff.1 hs)).1
  obtain ⟨rs, hrs, hpeer, hfar⟩ := exists_goesAsFarAs hget h fun s hs _ =>
    hkeeps.isAddressable t s (hmem s hs)
  have hle := successes_le peer rs (peer get t).2
  refine ⟨_, hfar _ (Nat.min_eq_right hle).symm, ?_⟩
  have hactive : ∀ s ∈ l.filter Silence.isActive,
      s.id ∈ (held (peer get t).2).map Silence.id := by
    intro s hs
    rw [hkeeps.listing t]
    exact List.mem_map_of_mem (hmem s (List.mem_filter.1 hs).1)
  rw [hpeer, held_successes hkeeps hrs _ hactive, hkeeps.listing t]

/-- A removal that succeeds leaves no active silence that is selected. -/
theorem isActive_eq_false_of_ok (hget : listing? base a = some get)
    (hkeeps : Keeps base get peer held selected) (hok : (removal base a peer t).1 = .ok ())
    (hs : s ∈ held (removal base a peer t).2.1) (hselected : selected s.id = true) :
    s.isActive = false := by
  cases h : listed? (peer get t).1 with
  | none =>
    obtain ⟨e, he⟩ := exists_outcome_of_not_listed hget h
    unfold removal at hok
    rw [he] at hok
    cases hok
  | some l =>
    obtain ⟨k, ⟨_, _, _, hresult⟩, hheld⟩ := exists_goesAsFarAs_of_keeps hget hkeeps h
    rw [hheld, List.take_of_length_le (hresult.1 hok)] at hs
    obtain ⟨s', hs', rfl⟩ := List.mem_map.1 hs
    rw [s'.id_expiredIn] at hselected
    rw [s'.isActive_expiredIn]
    cases hactive : s'.isActive with
    | false => rfl
    | true =>
      have hlisted : s' ∈ l :=
        (hkeeps.lists t l h).mem_iff.2 (List.mem_filter.2 ⟨hs', hselected⟩)
      have hid : s'.id ∈ (l.filter Silence.isActive).map Silence.id :=
        List.mem_map_of_mem (List.mem_filter.2 ⟨hlisted, hactive⟩)
      rw [List.contains_iff_mem.2 hid]
      rfl

/-- Where the silences cannot be asked for, nothing is sent. -/
theorem removal_of_not_listing (h : listing? base a = none)
    (peer : Request → σ → Option Response × σ) (t : σ) :
    removal base a peer t = (.error (.http .builder), t, []) := by
  unfold removal removeSilence silencesOf silencesUrl urlOf
  rw [outcome_bind, outcome_bind]
  cases hu : Url.parse (baseOf base ++ "/api/v1/silences") with
  | error e => rfl
  | ok u =>
    have hhttp : ¬ (Request.bare .get (u.withField "filter" (silenceFilter a))).url.isHttp := by
      intro hhttp
      rw [listing?_eq_some_iff.2 ⟨u, hu, rfl, hhttp⟩] at h
      cases h
    dsimp only
    rw [outcome_pure]
    dsimp only
    unfold Conversation.succeed Conversation.send
    rw [outcome_bind, outcome_bind, if_neg hhttp]
    rfl

/-- The removal of the silences for an alert is exact, and it can be resumed: with a peer that holds
silences, a removal that broke off leaves the others to the next. Where the silences cannot be asked
for, nothing is sent. -/
theorem removeSilence_resumes (base : String) (a : Alert) :
    (listing? base a = none → ∀ answers,
      removal base a inTurn answers = (.error (.http .builder), answers, [])) ∧
    ∀ get, listing? base a = some get → IsExact base a get ∧
      ∀ {σ : Type} {peer : Request → σ → Option Response × σ} {held : σ → List Silence}
        {selected : String → Bool}, Keeps base get peer held selected →
        ∀ t, IsResumable base a get peer held selected t := by
  refine ⟨fun h answers => removal_of_not_listing h inTurn answers, fun get hget => ⟨?_, ?_⟩⟩
  · refine ⟨fun answers h => ?_, fun answers l h hl => ?_⟩
    · have h' : listed? (inTurn get answers).1 = none := h
      obtain ⟨e, he⟩ := exists_outcome_of_not_listed hget h'
      unfold removal
      rw [he]
      exact ⟨nofun, rfl⟩
    · have h' : listed? (inTurn get answers).1 = some l := h
      obtain ⟨rs, -, -, hfar⟩ := exists_goesAsFarAs hget h' hl
      exact hfar _ (successes_inTurn rs answers.tail)
  · intro σ peer held selected hkeeps t
    refine ⟨fun hok s hs hselected => isActive_eq_false_of_ok hget hkeeps hok hs hselected,
      fun l h => ?_⟩
    obtain ⟨k, hfar, hheld⟩ := exists_goesAsFarAs_of_keeps hget hkeeps h
    refine ⟨k, hfar, hheld, fun l' h' => ⟨?_, ?_⟩⟩
    · have hl' := hkeeps.lists _ l' h'
      rw [hheld] at hl'
      exact filter_expiredIn_perm (hkeeps.nodup t) (hkeeps.lists t l h) hl'
    · obtain ⟨k', hfar', -⟩ := exists_goesAsFarAs_of_keeps hget hkeeps h'
      exact ⟨k', hfar'⟩

/-! ## A peer that refuses once -/

/-- The value that a silence is shown as. -/
def Silence.tree (s : Silence) : Tree :=
  .record [("id", .text s.id), ("status", .record [("state", .text s.state)])]

/-- The value that silences are listed as. -/
def listingTree (l : List Silence) : Tree :=
  .record [("status", .text "success"), ("data", .list (l.map Silence.tree))]

/-- A written silence is read as itself. -/
theorem Silence.ofForm?_tree (s : Silence) : ofForm? (Json.formOf s.tree) = some s := by
  have hstate : (Json.formOf (.record [("state", .text s.state)])).parts? ["state"] =
      some [("state", Json.formOf (.text s.state))] := Json.parts?_formOf (.refl _) (by decide)
  unfold ofForm? tree
  rw [Json.parts?_formOf]
  · simp [hstate]
  · exact .refl _
  · decide

/-- A written listing lists its silences. -/
theorem listed?_listingTree (l : List Silence) :
    listed? (some ⟨200, Json.text (listingTree l)⟩) = some l := by
  have hdata : Form.optional? (Form.list? Silence.ofForm?)
      (Json.formOf (.list (l.map Silence.tree))) = some (some l) := by
    rw [Form.optional?_formOf (t := .list _) nofun, Form.list?_formOf_map Silence.ofForm?_tree]
    rfl
  have henvelope : Envelope.ofForm? (Form.list? Silence.ofForm?) (Json.formOf (listingTree l)) =
      some ⟨"success", some l, none⟩ := by
    unfold Envelope.ofForm? listingTree
    rw [Json.parts?_formOf]
    · simp [hdata]
    · show ["status", "data"].Sublist ["status", "data", "error"]
      decide
    · decide
  have haccepted : accepted? (some ⟨200, Json.text (listingTree l)⟩) =
      some ⟨200, Json.text (listingTree l)⟩ := rfl
  unfold listed?
  rw [haccepted, Option.bind_some, opened?, Json.form?_text, Option.bind_some, henvelope]
  rfl

/-- The API that a peer at a small address has. -/
def smallApi (steps : List String) : Url where
  scheme := "http"
  authority := some ⟨"", "", .name "p", none⟩
  path := .steps ("api" :: "v1" :: steps)
  query := none
  fragment := none

set_option maxRecDepth 20000 in
theorem parse_smallApi : Url.parse (baseOf "http://p" ++ "/api/v1/") = .ok (smallApi [""]) := by
  cbv

set_option maxRecDepth 20000 in
theorem parse_smallApi_silences :
    Url.parse (baseOf "http://p" ++ "/api/v1/silences") = .ok (smallApi ["silences"]) := by
  cbv

/-- The text of an address of a silence there. -/
theorem addressOf_smallApi (id : String) :
    addressOf "http://p" id = "http://p/api/v1/silence/" ++ id := by
  have hapi : (Request.bare .get (smallApi [""])).url.text ++ "silence/" =
      "http://p/api/v1/silence/" := by decide +kernel
  unfold addressOf
  rw [parse_smallApi]
  exact congrArg (· ++ id) hapi

/-- An alert whose silences are removed there. -/
def smallAlert : Alert := .sample "a1" "e1" "r1" .suppressed

/-- The request for them. -/
def smallListing : Request :=
  .bare .get ((smallApi ["silences"]).withField "filter" (silenceFilter smallAlert))

theorem listing?_smallAlert : listing? "http://p" smallAlert = some smallListing := by
  unfold listing?
  rw [parse_smallApi_silences]
  exact if_pos (by decide +kernel)

/-- Three silences, the second of which has expired; the others have if the flags say so. -/
def threeSilences (t : Bool × Bool × Bool) : List Silence :=
  [⟨"s1", if t.1 then "expired" else "active"⟩, ⟨"s2", "expired"⟩,
    ⟨"s3", if t.2.1 then "expired" else "active"⟩]

/-- A peer that holds them. It refuses to remove the third once, if the last flag says so. -/
def refusingPeer (r : Request) (t : Bool × Bool × Bool) :
    Option Response × Bool × Bool × Bool :=
  if r.method = .get then (some ⟨200, Json.text (listingTree (threeSilences t))⟩, t)
  else if r.url.text = addressOf "http://p" "s1" then (some ⟨200, ""⟩, true, t.2)
  else if r.url.text = addressOf "http://p" "s3" then
    if t.2.2 then (some ⟨503, ""⟩, t.1, t.2.1, false) else (some ⟨200, ""⟩, t.1, true, false)
  else (some ⟨404, ""⟩, t)

theorem keeps_refusingPeer :
    Keeps "http://p" smallListing refusingPeer threeSilences fun _ => true where
  nodup t := by
    show ["s1", "s2", "s3"].Nodup
    decide
  isAddressable t s hs := by
    have hids : ∀ id ∈ ["s1", "s2", "s3"], Url.IsStep id ∧ id.utf8ByteSize = 2 := by decide
    obtain ⟨hstep, hsize⟩ := hids s.id (List.mem_map_of_mem (f := Silence.id) hs)
    exact isAddressable_of_size_le listing?_smallAlert hstep (by omega)
  listing t := rfl
  lists t l h := by
    have hl : threeSilences t = l := by
      have hlisted : listed? (refusingPeer smallListing t).1 = some (threeSilences t) :=
        listed?_listingTree _
      exact Option.some.inj (hlisted.symm.trans h)
    rw [← hl, List.filter_true]
  removal t r s hs hmethod htext := by
    have hget : r.method ≠ .get := by rw [hmethod]; decide
    rw [addressOf_smallApi] at htext
    obtain ⟨x, y, z⟩ := t
    unfold refusingPeer
    rw [if_neg hget, addressOf_smallApi, addressOf_smallApi, htext]
    unfold threeSilences at hs
    obtain rfl | rfl | rfl : _ ∨ _ ∨ _ := by simpa using hs
    all_goals
      clear hs htext
      revert x y z
      decide

/-- It removes the first of the two that are active, and then refuses. -/
theorem successes_refusingPeer {rs : List Request} (h : List.Forall₂ (Removes "http://p")
    ((threeSilences (false, false, true)).filter Silence.isActive) rs) :
    successes refusingPeer rs (false, false, true) = (1, true, false, false) := by
  obtain ⟨first, rest, hfirst, hrest, rfl⟩ := List.forall₂_cons_left_iff.1 h
  obtain ⟨last, none, hlast, hnone, rfl⟩ := List.forall₂_cons_left_iff.1 hrest
  have hremoved : refusingPeer first (false, false, true) =
      (some ⟨200, ""⟩, true, false, true) := by
    unfold refusingPeer
    rw [if_neg (by rw [hfirst.method]; decide), if_pos hfirst.text]
  have hrefused : refusingPeer last (true, false, true) =
      (some ⟨503, ""⟩, true, false, false) := by
    unfold refusingPeer
    rw [if_neg (by rw [hlast.method]; decide), if_neg, if_pos hlast.text]
    · rfl
    · rw [hlast.text, addressOf_smallApi, addressOf_smallApi]
      decide
  rw [successes_of_succeeded, hremoved, successes_of_not_succeeded, hrefused]
  · rw [hrefused]; rfl
  · rw [hremoved]; rfl

/-- A peer that refuses the second of two removals is left with that silence, which a further
removal ends. -/
theorem removeSilence_resumes_refused :
    listing? "http://p" smallAlert = some smallListing ∧
      (removal "http://p" smallAlert refusingPeer (false, false, true)).2.1 =
        (true, false, false) ∧
      IsExact "http://p" smallAlert smallListing ∧
      IsResumable "http://p" smallAlert smallListing refusingPeer threeSilences (fun _ => true)
        (false, false, true) := by
  obtain ⟨hexact, hresumable⟩ :=
    (removeSilence_resumes "http://p" smallAlert).2 smallListing listing?_smallAlert
  refine ⟨listing?_smallAlert, ?_, hexact, hresumable keeps_refusingPeer _⟩
  have hlisted : listed? (refusingPeer smallListing (false, false, true)).1 =
      some (threeSilences (false, false, true)) := listed?_listingTree _
  obtain ⟨rs, hrs, hpeer, -⟩ := exists_goesAsFarAs listing?_smallAlert hlisted
    fun s hs _ => keeps_refusingPeer.isAddressable (false, false, true) s hs
  exact hpeer.trans (congrArg Prod.snd (successes_refusingPeer hrs))

end AlertSync.AlertingBackend
