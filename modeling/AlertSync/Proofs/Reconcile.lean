import AlertSync.Proofs.Sample
import AlertSync.Reconcile

/-!
# What reconciling makes of an alert

Which live alerts are about an alert, and which state of it follows from them. What reconciling
makes of an alert is decided by what the first live alert about it shows (`reconcile_eq_iff`). So
the order in which live alerts are listed makes a difference exactly where two of those about an
alert show different things (`reconcile_reordered`).
-/

namespace AlertSync

/-- A live alert is about an alert if its labels give the alert's id and environment. -/
theorem LiveAlert.isAbout_iff (l : LiveAlert) (a : Alert) :
    l.isAbout a = true ↔ l.labels.find? "alert_id" = some a.id ∧
      l.labels.find? "environment" = some a.environment := by
  unfold LiveAlert.isAbout LiveAlert.label?
  rw [Bool.and_eq_true, beq_iff_eq, beq_iff_eq]

namespace Alert

variable {a : Alert} {live : List LiveAlert}

/-- What is observed of an alert is a live alert about it. -/
theorem isAbout_of_observed? {l : LiveAlert} (h : a.observed? live = some l) :
    l ∈ live ∧ l.isAbout a = true := by
  unfold observed? at h
  exact ⟨List.mem_of_find?_eq_some h, List.find?_some (p := fun l : LiveAlert => l.isAbout a) h⟩

/-- A suppressed alert stays suppressed, or its silence is removed, if whatever is about it is
suppressed. -/
theorem state_reconcile_of_suppressed (hstate : a.state = .suppressed)
    (hlive : ∀ l ∈ live, l.isAbout a = true → l.isSuppressed = true) :
    (a.reconcile live).removeSilence = true ∨ (a.reconcile live).alert.state = .suppressed := by
  show (a.state == .suppressed && observedState (a.observed? live) == .enabled) = true ∨
    observedState (a.observed? live) = .suppressed
  rw [hstate]
  cases h : a.observed? live with
  | none => exact .inl rfl
  | some l =>
    obtain ⟨hmem, habout⟩ := isAbout_of_observed? h
    right
    rw [observedState, if_pos (hlive l hmem habout)]

end Alert

/-! ## The order of the live alerts -/

/-- What a live alert shows of the alert it is about: the state, and when that began and ends. -/
def LiveAlert.shown (l : LiveAlert) : AlertState × Option Timestamp × Option Timestamp :=
  (observedState (some l), l.startsAt, l.endsAt)

/-- A live alert shows an alert active or suppressed, and not enabled. -/
theorem observedState_some_ne_enabled (l : LiveAlert) : observedState (some l) ≠ .enabled := by
  cases hsuppressed : l.isSuppressed <;> simp [observedState, hsuppressed]

namespace Alert

variable {a : Alert} {live live' : List LiveAlert}

/-- Two lists of live alerts make the same of an alert exactly if what comes first about it in them
shows the same, or nothing in either is about it. -/
theorem reconcile_eq_iff : a.reconcile live = a.reconcile live' ↔
    (a.observed? live).map LiveAlert.shown = (a.observed? live').map LiveAlert.shown := by
  constructor
  · intro h
    have hstate : observedState (a.observed? live) = observedState (a.observed? live') :=
      congrArg (·.alert.state) h
    have hstarts : (a.observed? live).bind (·.startsAt) = (a.observed? live').bind (·.startsAt) :=
      congrArg (·.alert.startsAt) h
    have hends : (a.observed? live).bind (·.endsAt) = (a.observed? live').bind (·.endsAt) :=
      congrArg (·.alert.endsAt) h
    -- The state tells whether anything is observed at all.
    cases hfound : a.observed? live with
    | none =>
      cases hfound' : a.observed? live' with
      | none => rfl
      | some l' =>
        rw [hfound, hfound'] at hstate
        exact absurd hstate.symm (observedState_some_ne_enabled l')
    | some l =>
      cases hfound' : a.observed? live' with
      | none =>
        rw [hfound, hfound'] at hstate
        exact absurd hstate (observedState_some_ne_enabled l)
      | some l' =>
        rw [hfound, hfound'] at hstate hstarts hends
        exact congrArg some (Prod.ext hstate (Prod.ext hstarts hends))
  · intro h
    unfold reconcile
    cases hfound : a.observed? live with
    | none =>
      rw [hfound] at h
      rw [Option.map_eq_none_iff.1 h.symm]
    | some l =>
      rw [hfound] at h
      obtain ⟨l', hfound', hshown⟩ := Option.map_eq_some_iff.1 h.symm
      obtain ⟨hstate, htimes⟩ := Prod.mk.inj hshown
      obtain ⟨hstarts, hends⟩ := Prod.mk.inj htimes
      rw [hfound']
      simp only [Option.bind_some, hstate, hstarts, hends]

/-- A live alert about an alert is what is observed of it where it is listed first. -/
theorem observed?_cons_of_isAbout {l : LiveAlert} (h : l.isAbout a = true) :
    a.observed? (l :: live) = some l := by
  unfold observed?
  rw [List.find?_cons_of_pos (p := fun l : LiveAlert => l.isAbout a) h]

/-- Something is observed of an alert in whatever order the live alerts are listed, or in none. -/
theorem isSome_observed?_of_perm (h : live.Perm live') :
    (a.observed? live).isSome = (a.observed? live').isSome := by
  unfold observed?
  rw [Bool.eq_iff_iff, List.find?_isSome, List.find?_isSome]
  constructor
  · rintro ⟨l, hl, habout⟩
    exact ⟨l, h.mem_iff.1 hl, habout⟩
  · rintro ⟨l, hl, habout⟩
    exact ⟨l, h.mem_iff.2 hl, habout⟩

/-- Where all live alerts about an alert show the same, their order makes no difference to it. -/
theorem reconcile_eq_of_perm (h : live.Perm live')
    (halike : ∀ l ∈ live, ∀ l' ∈ live, l.isAbout a = true → l'.isAbout a = true →
      l.shown = l'.shown) : a.reconcile live = a.reconcile live' := by
  rw [reconcile_eq_iff]
  have hsome := isSome_observed?_of_perm (a := a) h
  cases hfound : a.observed? live with
  | none =>
    rw [hfound, Option.isSome_none] at hsome
    have hnone := Option.isNone_iff_eq_none.1 (Option.isSome_eq_false_iff.1 hsome.symm)
    rw [hnone]
  | some l =>
    rw [hfound, Option.isSome_some] at hsome
    obtain ⟨l', hfound'⟩ := Option.isSome_iff_exists.1 hsome.symm
    obtain ⟨hl, habout⟩ := isAbout_of_observed? hfound
    obtain ⟨hl', habout'⟩ := isAbout_of_observed? hfound'
    rw [hfound']
    exact congrArg some (halike l hl l' (h.mem_iff.2 hl') habout habout')

/-- Listed in another order, live alerts make the same of an alert exactly if those that then come
first about it show the same; and they do so in every order exactly if all that are about the alert
show the same. -/
theorem reconcile_reordered (a : Alert) (live : List LiveAlert) :
    (∀ live', live.Perm live' → (a.reconcile live = a.reconcile live' ↔
      (a.observed? live).map LiveAlert.shown = (a.observed? live').map LiveAlert.shown)) ∧
    ((∀ live', live.Perm live' → a.reconcile live = a.reconcile live') ↔
      ∀ l ∈ live, ∀ l' ∈ live, l.isAbout a = true → l'.isAbout a = true → l.shown = l'.shown) := by
  refine ⟨fun live' _ => reconcile_eq_iff, ?_, fun halike live' h => reconcile_eq_of_perm h halike⟩
  intro hsame l hl l' hl' habout habout'
  -- Either of the two may be listed first.
  have hfirst := (reconcile_eq_iff.1 (hsame _ (List.perm_cons_erase hl)))
  have hfirst' := (reconcile_eq_iff.1 (hsame _ (List.perm_cons_erase hl')))
  rw [observed?_cons_of_isAbout habout] at hfirst
  rw [observed?_cons_of_isAbout habout'] at hfirst'
  exact Option.some.inj (hfirst.symm.trans hfirst')

end Alert

/-- A live alert about the alert `a1` in `e1`, of the series of an instance. -/
def LiveAlert.ofSeries (host state : String) : LiveAlert :=
  .sample (.ofList [("alert_id", "a1"), ("environment", "e1"), ("instance", host)]) state

/-- Two series of one query that are both active may be listed in either order. -/
theorem Alert.reconcile_reordered_active :
    [LiveAlert.ofSeries "h1" "active", .ofSeries "h2" "active"].Perm
        [.ofSeries "h2" "active", .ofSeries "h1" "active"] ∧
      (Alert.sample "a1" "e1" "r1" .enabled).reconcile
          [.ofSeries "h1" "active", .ofSeries "h2" "active"] =
        (Alert.sample "a1" "e1" "r1" .enabled).reconcile
          [.ofSeries "h2" "active", .ofSeries "h1" "active"] := by
  have hperm := List.Perm.swap (LiveAlert.ofSeries "h2" "active") (.ofSeries "h1" "active") []
  refine ⟨hperm, ?_⟩
  exact ((Alert.reconcile_reordered (.sample "a1" "e1" "r1" .enabled) _).1 _ hperm).2 (by decide)

/-- Of two series of which one is suppressed the first that is listed decides. -/
theorem Alert.not_reconcile_eq_of_perm : ¬ ∀ (a : Alert) (live live' : List LiveAlert),
    live.Perm live' → a.reconcile live = a.reconcile live' := by
  intro h
  have hswapped := h (.sample "a1" "e1" "r1" .enabled)
    [.ofSeries "h1" "active", .ofSeries "h2" "suppressed"]
    [.ofSeries "h2" "suppressed", .ofSeries "h1" "active"] (List.Perm.swap _ _ [])
  have hstate := congrArg (fun r => r.alert.state) hswapped
  exact absurd hstate (by decide)

end AlertSync
