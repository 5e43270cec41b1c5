import AlertSync.Error
import AlertSync.Url
import Mathlib.Data.List.Chain
import Mathlib.Data.Set.Finite.Basic
import Mathlib.Logic.Relation

/-!
# Trails of pages

What is found at a URL is some items and perhaps the URL of another page, or an error. A trail
passes from page to page by these links. Where finitely many pages are reached and nothing is wrong
with any, there is a trail to a last page (`exists_trail_to_last`), unless a page leads back to
itself: from such a page there are trails of any length (`exists_trail_of_back`).
-/

namespace AlertSync.Platform

open Relation

variable {α : Type}
variable {visit : Url → Except Error (List α × Option Url)} {first u v w : Url} {us vs : List Url}

/-- Whether the page at a URL leads on to another. -/
def Leads (visit : Url → Except Error (List α × Option Url)) (u v : Url) : Prop :=
  ∃ items, visit u = .ok (items, some v)

/-- Whether a page leads on to no other. -/
def IsLast (visit : Url → Except Error (List α × Option Url)) (u : Url) : Prop :=
  ∃ items, visit u = .ok (items, none)

/-- Whether the links lead to a page, beginning at the first. -/
def Reached (visit : Url → Except Error (List α × Option Url)) (first url : Url) : Prop :=
  ReflTransGen (Leads visit) first url

/-- Whether the links lead from a page back to itself. -/
def LeadsBack (visit : Url → Except Error (List α × Option Url)) (url : Url) : Prop :=
  TransGen (Leads visit) url url

/-- The items of the page at a URL. -/
def itemsAt (visit : Url → Except Error (List α × Option Url)) (u : Url) : List α :=
  match visit u with
  | .ok (items, _) => items
  | .error _ => []

/-- A page leads on to one page at most. -/
theorem Leads.unique (hv : Leads visit u v) (hw : Leads visit u w) : v = w := by
  obtain ⟨items, hv⟩ := hv
  obtain ⟨items', hw⟩ := hw
  rw [hv] at hw
  exact Option.some.inj (Prod.mk.inj (Except.ok.inj hw)).2

/-- The last page leads nowhere. -/
theorem IsLast.not_leads (h : IsLast visit u) : ¬ Leads visit u v := by
  rintro ⟨items, hv⟩
  obtain ⟨items', hu⟩ := h
  rw [hv] at hu
  cases (Prod.mk.inj (Except.ok.inj hu)).2

/-! ## Trails -/

/-- Following the links from one page to another, through the pages at some URLs. -/
inductive Trail (visit : Url → Except Error (List α × Option Url)) : Url → List Url → Url → Prop
  | nil (u : Url) : Trail visit u [] u
  | cons {u v w : Url} {us : List Url} (h : Leads visit u v) (rest : Trail visit v us w) :
    Trail visit u (u :: us) w

namespace Trail

/-- One trail after the other. -/
theorem append (h : Trail visit u us v) (h' : Trail visit v vs w) :
    Trail visit u (us ++ vs) w := by
  induction h with
  | nil => exact h'
  | cons hleads _ ih => exact .cons hleads (ih h')

/-- The first so many pages of a trail are a trail. -/
theorem take (h : Trail visit u us v) (n : Nat) : ∃ w, Trail visit u (us.take n) w := by
  induction h generalizing n with
  | nil u =>
    rw [List.take_nil]
    exact ⟨u, .nil u⟩
  | cons hleads _ ih =>
    cases n with
    | zero => exact ⟨_, .nil _⟩
    | succ n =>
      obtain ⟨w, hw⟩ := ih n
      exact ⟨w, .cons hleads hw⟩

/-- All pages on a trail are reached. -/
theorem reaches (h : Trail visit u us v) : ∀ w ∈ us ++ [v], Reached visit u w := by
  induction h with
  | nil u =>
    intro w hw
    rw [List.mem_singleton.1 hw]
    exact .refl
  | cons hleads _ ih =>
    intro w hw
    rcases List.mem_cons.1 hw with rfl | hw
    · exact .refl
    · exact .head hleads (ih w hw)

/-- Each page on a trail leads on to the next. -/
theorem isChain (h : Trail visit u us v) : (us ++ [v]).IsChain (Leads visit) := by
  induction h with
  | nil => exact List.isChain_singleton _
  | cons hleads rest ih =>
    cases rest with
    | nil => exact .cons_cons hleads ih
    | cons => exact .cons_cons hleads ih

/-- A trail begins at its first page. -/
theorem head? (h : Trail visit u us v) : (us ++ [v]).head? = some u := by
  cases h <;> rfl

/-- Where no page leads back to itself, a trail passes no page twice. -/
theorem nodup (h : Trail visit u us v)
    (hback : ∀ w, Reached visit u w → ¬ LeadsBack visit w) :
    (us ++ [v]).Nodup := by
  induction h with
  | nil => exact List.nodup_singleton _
  | cons hleads rest ih =>
    have hrest := ih fun w hw => hback w (.head hleads hw)
    refine List.nodup_cons.2 ⟨fun hagain => ?_, hrest⟩
    exact hback _ .refl (.head' hleads (rest.reaches _ hagain))

/-- A trail to the last page passes every page that is reached. -/
theorem mem_of_reaches (h : Trail visit u us v) (hlast : IsLast visit v)
    (hw : Reached visit u w) : w ∈ us ++ [v] := by
  induction h with
  | nil =>
    obtain rfl | ⟨x, hx, -⟩ := ReflTransGen.cases_head hw
    · exact List.mem_singleton_self _
    · exact absurd hx hlast.not_leads
  | cons hleads rest ih =>
    obtain rfl | ⟨x, hx, hw⟩ := ReflTransGen.cases_head hw
    · exact List.mem_cons_self
    · rw [hx.unique hleads] at hw
      exact List.mem_cons_of_mem _ (ih hlast hw)

end Trail

/-! ## Where trails lead -/

/-- A page that is reached is at the end of a trail. -/
theorem exists_trail (h : Reached visit u v) : ∃ us, Trail visit u us v := by
  induction h using ReflTransGen.head_induction_on with
  | refl => exact ⟨[], .nil v⟩
  | head hleads _ ih =>
    obtain ⟨us, hus⟩ := ih
    exact ⟨_, .cons hleads hus⟩

/-- From a page that leads back to itself there are trails of any length. -/
theorem exists_trail_of_back (h : LeadsBack visit u) (n : Nat) :
    ∃ us v, us.length = n ∧ Trail visit u us v := by
  obtain ⟨v, hleads, hback⟩ := TransGen.head'_iff.1 h
  obtain ⟨us, hus⟩ := exists_trail hback
  -- So many times around is at least as many pages.
  have hround : ∀ n, ∃ vs, n ≤ vs.length ∧ Trail visit u vs u := by
    intro n
    induction n with
    | zero => exact ⟨[], Nat.le_refl 0, .nil u⟩
    | succ n ih =>
      obtain ⟨vs, hlength, hvs⟩ := ih
      refine ⟨(u :: us) ++ vs, ?_, (Trail.cons hleads hus).append hvs⟩
      rw [List.length_append, List.length_cons]
      omega
  obtain ⟨vs, hlength, hvs⟩ := hround n
  obtain ⟨w, hw⟩ := hvs.take n
  exact ⟨vs.take n, w, List.length_take_of_le hlength, hw⟩

/-- Where there is nothing wrong with any page that is reached, trails end with the last page or
are of any length. -/
theorem exists_last_or_trail
    (hgood : ∀ u, Reached visit first u → ∃ found, visit u = .ok found) (n : Nat) :
    (∃ us v, Trail visit first us v ∧ IsLast visit v) ∨
      ∃ us v, us.length = n ∧ Trail visit first us v := by
  induction n with
  | zero => exact .inr ⟨[], first, rfl, .nil first⟩
  | succ n ih =>
    rcases ih with hlast | ⟨us, v, hlength, htrail⟩
    · exact .inl hlast
    · have hreached := htrail.reaches v (List.mem_append_right us (List.mem_singleton_self v))
      obtain ⟨⟨items, next⟩, hfound⟩ := hgood v hreached
      cases next with
      | none => exact .inl ⟨us, v, htrail, items, hfound⟩
      | some w =>
        refine .inr ⟨us ++ [v], w, ?_, htrail.append (.cons ⟨items, hfound⟩ (.nil w))⟩
        rw [List.length_append, hlength, List.length_singleton]

/-- Where moreover only finitely many pages are reached, and none that leads back to itself, there
is a last page. -/
theorem exists_trail_to_last
    (hgood : ∀ u, Reached visit first u → ∃ found, visit u = .ok found)
    (hfinite : {u | Reached visit first u}.Finite)
    (hback : ∀ u, Reached visit first u → ¬ LeadsBack visit u) :
    ∃ us v, Trail visit first us v ∧ IsLast visit v := by
  obtain hlast | ⟨us, v, hlength, htrail⟩ := exists_last_or_trail hgood hfinite.toFinset.card
  · exact hlast
  · -- There are not so many pages that a trail could pass once each.
    have hsubset : (us ++ [v]).toFinset ⊆ hfinite.toFinset := by
      intro w hw
      exact hfinite.mem_toFinset.2 (htrail.reaches w (List.mem_toFinset.1 hw))
    have hcard := Finset.card_le_card hsubset
    rw [List.toFinset_card_of_nodup (htrail.nodup hback), List.length_append, hlength] at hcard
    exact absurd hcard (by simp)

end AlertSync.Platform
