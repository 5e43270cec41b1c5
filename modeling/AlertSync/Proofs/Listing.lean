import AlertSync.Backend.Platform
import AlertSync.Proofs.Payload.RoundTrip
import AlertSync.Proofs.Trail
import Mathlib

/-!
# Which listings of the platform end

A listing goes from page to page by links that the platform supplies, and stops at a page that has
none or one to itself. Take a platform that answers each URL always alike (`Site`). What is found at
a URL (`Account.visit`) then does not depend on what was asked for before, and a listing goes along
the pages that lead on to one another (`listing_trail`). It ends and is complete exactly if none of
these pages leads back to itself by way of others (`listing_completes_iff`): nothing in the listing
remembers which pages it has seen.
-/

namespace AlertSync

/-- A written environment is read as itself. -/
@[simp]
theorem Environment.ofForm?_tree (e : Environment) : ofForm? (Json.formOf e.tree) = some e := by
  unfold ofForm? tree
  rw [Json.parts?_formOf]
  · simp [Form.orElse?_formOf]
  · exact .refl _
  · decide

namespace Platform

open Http Relation

variable {α : Type}

/-! ## Pages and the links between them -/

/-- What a platform answers that answers each URL always alike, if at all. -/
abbrev Site := Url → Option Response

/-- A site as a peer, with the requests that it got. -/
def Site.peer (site : Site) (r : Request) (log : List Request) :
    Option Response × List Request :=
  (site r.url, log ++ [r])

/-- The page that a site shows at a URL; or what is wrong with the request, the response, its
status or its body. -/
def Account.shown (a : Account) (read : Form → Option α) (site : Site) (url : Url) :
    Except Error (Page α) :=
  let r := a.request url
  if r.url.isHttp then
    match site r.url with
    | none => .error (.http .request)
    | some response =>
      if isSuccess response.status then
        match (Json.form? response.body).bind (Page.ofForm? read) with
        | none => .error (.http .decode)
        | some page => .ok page
      else .error (.rejected r.url.text (statusText response.status) (Text.trim response.body))
  else .error (.http .builder)

/-- The items that are found at a URL, and where it leads on; or what is wrong with the page or with
the link on it. -/
def Account.visit (a : Account) (read : Form → Option α) (site : Site) (url : Url) :
    Except Error (List α × Option Url) :=
  (a.shown read site url).bind fun page =>
    (page.following url).map fun next => (page.items, next)

/-- The value that a page is shown as. -/
def Page.tree (item : α → Tree) (p : Page α) : Tree :=
  .record [("data", .list (p.items.map item)),
    ("pagination", .record [("next", (p.next.map .text).getD .absent)])]

/-- A written page is read as itself if its items are. -/
theorem Page.ofForm?_tree {read : Form → Option α} {item : α → Tree}
    (h : ∀ x, read (Json.formOf (item x)) = some x) (p : Page α) :
    ofForm? read (Json.formOf (p.tree item)) = some p := by
  have hitems : Form.list? read (Json.formOf (.list (p.items.map item))) = some p.items :=
    Form.list?_formOf_map h p.items
  have hnext : Form.optional? Form.text? (Json.formOf ((p.next.map .text).getD .absent)) =
      some p.next := by
    cases p.next <;> rfl
  unfold ofForm? tree
  rw [Json.parts?_formOf]
  · have hlink : (Json.formOf (.record [("next", (p.next.map .text).getD .absent)])).parts?
        ["next"] = some [("next", Json.formOf ((p.next.map .text).getD .absent))] :=
      Json.parts?_formOf (.refl _) (by decide)
    rw [Option.bind_eq_bind, Option.bind_some]
    simp [hitems, Form.optional?_formOf, hlink, hnext]
  · exact .refl _
  · decide

/-- A page is the last if it has no link, an empty one, or one to itself. -/
theorem Page.following_eq_none_iff {p : Page α} {url : Url} : p.following url = .ok none ↔
    p.next = none ∨ p.next = some "" ∨
      ∃ link u, p.next = some link ∧ Url.parse link = .ok u ∧ u.text = url.text := by
  obtain ⟨items, next⟩ := p
  unfold Page.following
  split
  · next hnone => simp_all
  · next hempty => simp_all
  · next link hlink hnext =>
    cases hparse : Url.parse link with
    | error cause => simp_all
    | ok u => simp_all

/-- A link leads on to the URL that it is, unless the page is there itself. -/
theorem Page.following_of_parse {p : Page α} {url u : Url} {link : String}
    (hnext : p.next = some link) (hlink : link ≠ "") (hparse : Url.parse link = .ok u) :
    p.following url = .ok (if u.text = url.text then none else some u) := by
  unfold Page.following
  split
  · next hnone => simp_all
  · next hempty => simp_all
  · next link' _ hnext' =>
    obtain rfl : link = link' := Option.some.inj (hnext.symm.trans hnext')
    rw [hparse]

/-- No link leads to the page on which it is. -/
theorem Page.following_ne_self (p : Page α) (url : Url) : p.following url ≠ .ok (some url) := by
  unfold Page.following
  split
  · exact nofun
  · exact nofun
  · split
    · next u _ =>
      by_cases hsame : u.text = url.text
      · rw [if_pos hsame]
        exact nofun
      · rw [if_neg hsame]
        rintro ⟨⟩
        exact hsame rfl
    · exact nofun

/-- What a listing of at most so many pages comes to, and the requests that are sent for it. -/
def Account.listing (a : Account) (read : Form → Option α) (site : Site) (pages : Nat)
    (first : Url) (log : List Request) : Except Error (Option (List α)) × List Request :=
  (a.collect read pages first).outcome site.peer log

/-- What a listing comes to that goes on behind some items. -/
def continued (items : List α) (x : Except Error (Option (List α)) × List Request) :
    Except Error (Option (List α)) × List Request :=
  (x.1.map (Option.map (items ++ ·)), x.2)

/-- The requests that get out for the page at a URL. -/
def Account.requestsFor (a : Account) (url : Url) : List Request :=
  if (a.request url).url.isHttp then [a.request url] else []

variable {a : Account} {read : Form → Option α} {site : Site}

@[simp] theorem continued_error (items : List α) (e : Error) (log : List Request) :
    continued items (.error e, log) = (.error e, log) := rfl

@[simp] theorem continued_none (items : List α) (log : List Request) :
    continued items (.ok none, log) = (.ok none, log) := rfl

@[simp] theorem continued_some (items rest : List α) (log : List Request) :
    continued items (.ok (some rest), log) = (.ok (some (items ++ rest)), log) := rfl

theorem continued_nil (x : Except Error (Option (List α)) × List Request) :
    continued [] x = x := by
  obtain ⟨_ | _ | _, log⟩ := x <;> rfl

theorem continued_append (items items' : List α)
    (x : Except Error (Option (List α)) × List Request) :
    continued (items ++ items') x = continued items (continued items' x) := by
  obtain ⟨_ | _ | _, log⟩ := x <;> simp [List.append_assoc]

/-- A request that is sent to a site gets its answer, if there is one. -/
theorem outcome_send (r : Request) (log : List Request) :
    (Conversation.send r).outcome site.peer log =
      if r.url.isHttp then
        ((site r.url).elim (.error (.http .request)) .ok, log ++ [r])
      else (.error (.http .builder), log) := by
  unfold Conversation.send
  by_cases hhttp : r.url.isHttp
  · rw [if_pos hhttp, if_pos hhttp]
    unfold Conversation.outcome
    cases hsite : site r.url <;> simp only [ExceptT.run_mk, Exchange.run, Site.peer, hsite] <;> rfl
  · rw [if_neg hhttp, if_neg hhttp]
    rfl

/-- Asking for a page comes to what the site shows. -/
theorem outcome_page (url : Url) (log : List Request) :
    (a.page read url).outcome site.peer log =
      (a.shown read site url, log ++ a.requestsFor url) := by
  unfold Account.page Account.shown Account.requestsFor Conversation.succeed
  rw [Conversation.outcome_bind, Conversation.outcome_bind, outcome_send]
  dsimp only
  by_cases hhttp : (a.request url).url.isHttp
  · simp only [if_pos hhttp]
    cases site (a.request url).url with
    | none => rfl
    | some response =>
      dsimp only [Option.elim]
      by_cases hsuccess : isSuccess response.status
      · simp only [if_pos hsuccess, Conversation.outcome_pure]
        unfold Conversation.value
        cases (Json.form? response.body).bind (Page.ofForm? read) <;> rfl
      · simp only [if_neg hsuccess]
        rfl
  · simp only [if_neg hhttp, List.append_nil]

/-- Where no page may be asked for any more, a listing is not finished. -/
theorem listing_zero (url : Url) (log : List Request) :
    a.listing read site 0 url log = (.ok none, log) := rfl

/-- A listing fails with its first page, ends with it, or goes on behind it. -/
theorem listing_succ (pages : Nat) (url : Url) (log : List Request) :
    a.listing read site (pages + 1) url log =
      match a.visit read site url with
      | .error e => (.error e, log ++ a.requestsFor url)
      | .ok (items, none) => (.ok (some items), log ++ a.requestsFor url)
      | .ok (items, some link) =>
        continued items (a.listing read site pages link (log ++ a.requestsFor url)) := by
  unfold Account.listing Account.visit
  rw [Account.collect, Conversation.outcome_bind, outcome_page]
  cases a.shown read site url with
  | error e => rfl
  | ok page =>
    dsimp only
    rw [Conversation.outcome_bind]
    simp only [Except.bind]
    cases page.following url with
    | error e => rfl
    | ok next =>
      cases next with
      | none => rfl
      | some link =>
        show (a.collect read pages link >>= fun rest => pure (rest.map (page.items ++ ·))).outcome
          site.peer (log ++ a.requestsFor url) = _
        rw [Conversation.outcome_bind]
        simp only [Except.map]
        cases (a.collect read pages link).outcome site.peer (log ++ a.requestsFor url) with
        | mk result log => cases result <;> rfl

/-! ## What a listing comes to -/

variable {first u v w : Url} {us vs : List Url}

/-- No page leads on to itself. -/
theorem not_leads_self : ¬ Leads (a.visit read site) u u := by
  rintro ⟨items, hvisit⟩
  unfold Account.visit at hvisit
  cases hshown : a.shown read site u with
  | error e => simp [hshown, Except.bind] at hvisit
  | ok page =>
    cases hnext : page.following u with
    | error e => simp [hshown, hnext, Except.bind, Except.map] at hvisit
    | ok next =>
      simp only [hshown, hnext, Except.bind, Except.map, Except.ok.injEq, Prod.mk.injEq] at hvisit
      exact page.following_ne_self u (hnext.trans (congrArg Except.ok hvisit.2))

/-- A page leads back to itself only by way of another. -/
theorem leadsBack_iff : LeadsBack (a.visit read site) u ↔
    ∃ v, v ≠ u ∧ Leads (a.visit read site) u v ∧ Reached (a.visit read site) v u := by
  refine ⟨fun h => ?_, fun ⟨v, _, hleads, hback⟩ => .head' hleads hback⟩
  obtain ⟨v, hleads, hback⟩ := TransGen.head'_iff.1 h
  refine ⟨v, ?_, hleads, hback⟩
  rintro rfl
  exact not_leads_self hleads

/-- For a page that is found, one request is sent. -/
theorem requestsFor_of_visit {url : Url} {found : List α × Option Url}
    (h : a.visit read site url = .ok found) : a.requestsFor url = [a.request url] := by
  unfold Account.requestsFor
  by_cases hhttp : (a.request url).url.isHttp
  · exact if_pos hhttp
  · rw [Account.visit, Account.shown, if_neg hhttp] at h
    cases h

/-- A listing goes along a trail, asks for each page on it and keeps the items. -/
theorem listing_trail (h : Trail (a.visit read site) u us v) (pages : Nat) (log : List Request) :
    a.listing read site (us.length + pages) u log =
      continued (us.flatMap (itemsAt (a.visit read site)))
        (a.listing read site pages v (log ++ us.map a.request)) := by
  induction h generalizing log with
  | nil u =>
    rw [List.length_nil, Nat.zero_add, List.map_nil, List.append_nil, List.flatMap_nil,
      continued_nil]
  | @cons u v w us hleads rest ih =>
    obtain ⟨items, hvisit⟩ := hleads
    have hitems : itemsAt (a.visit read site) u = items := by rw [itemsAt, hvisit]
    have hpages : (u :: us).length + pages = us.length + pages + 1 := by
      rw [List.length_cons]
      omega
    rw [hpages, listing_succ, hvisit, requestsFor_of_visit hvisit]
    dsimp only
    rw [ih, List.append_assoc, List.flatMap_cons, hitems, continued_append]
    rfl

/-- A listing whose first page is the last ends with it. -/
theorem listing_of_isLast (h : IsLast (a.visit read site) u) (pages : Nat) (log : List Request) :
    a.listing read site (pages + 1) u log =
      (.ok (some (itemsAt (a.visit read site) u)), log ++ [a.request u]) := by
  obtain ⟨items, hvisit⟩ := h
  have hitems : itemsAt (a.visit read site) u = items := by rw [itemsAt, hvisit]
  rw [listing_succ, hvisit, requestsFor_of_visit hvisit, hitems]

/-- A listing that ends and is complete: it asks once for each page that is reached, in the order of
the links, and comes to all their items, in that order. -/
structure Completes (a : Account) (read : Form → Option α) (site : Site) (first : Url)
    (urls : List Url) : Prop where
  begins : urls.head? = some first
  follows : urls.IsChain (Leads (a.visit read site))
  nodup : urls.Nodup
  mem_iff : ∀ url, url ∈ urls ↔ Reached (a.visit read site) first url
  listing : ∀ pages, urls.length ≤ pages → a.listing read site pages first [] =
    (.ok (some (urls.flatMap (itemsAt (a.visit read site)))), urls.map a.request)

/-- Whether a listing asks for any number of pages and is not finished then. -/
def NeverEnds (a : Account) (read : Form → Option α) (site : Site) (first : Url) : Prop :=
  ∀ pages, ∃ urls : List Url, urls.length = pages ∧
    a.listing read site pages first [] = (.ok none, urls.map a.request)

/-- Whether a listing fails with an error, of however many pages it may be. -/
def FailsWith (a : Account) (read : Form → Option α) (site : Site) (first : Url) (e : Error) :
    Prop :=
  ∃ enough, ∀ pages, enough ≤ pages → (a.listing read site pages first []).1 = .error e

/-- A listing that is complete has ended. -/
theorem Completes.not_neverEnds {urls : List Url} (h : Completes a read site first urls) :
    ¬ NeverEnds a read site first := by
  intro hnever
  obtain ⟨_, -, hlisting⟩ := hnever urls.length
  rw [h.listing urls.length (Nat.le_refl _)] at hlisting
  cases congrArg Prod.fst hlisting

/-- A listing along a trail to the last page is complete, if no page leads back to itself. -/
theorem completes_of_trail (htrail : Trail (a.visit read site) first us v)
    (hlast : IsLast (a.visit read site) v)
    (hback : ∀ url, Reached (a.visit read site) first url → ¬ LeadsBack (a.visit read site) url) :
    Completes a read site first (us ++ [v]) where
  begins := htrail.head?
  follows := htrail.isChain
  nodup := htrail.nodup hback
  mem_iff url := ⟨htrail.reaches url, htrail.mem_of_reaches hlast⟩
  listing pages hpages := by
    rw [List.length_append, List.length_singleton] at hpages
    obtain ⟨more, rfl⟩ := Nat.exists_eq_add_of_le hpages
    rw [Nat.add_assoc, Nat.add_comm 1, listing_trail htrail, listing_of_isLast hlast,
      continued_some, List.nil_append, List.flatMap_append, List.flatMap_singleton,
      List.map_append, List.map_singleton]

/-- A listing never ends where a page is reached that leads back to itself. -/
theorem neverEnds_of_leadsBack (hreached : Reached (a.visit read site) first u)
    (hback : LeadsBack (a.visit read site) u) : NeverEnds a read site first := by
  intro pages
  -- The way to that page and then any number of times around, of which so many pages are taken.
  obtain ⟨us, hus⟩ := exists_trail hreached
  obtain ⟨vs, v, hlength, hvs⟩ := exists_trail_of_back hback pages
  obtain ⟨w, hw⟩ := (hus.append hvs).take pages
  have hpages : ((us ++ vs).take pages).length = pages := by
    rw [List.length_take, List.length_append]
    omega
  refine ⟨(us ++ vs).take pages, hpages, ?_⟩
  have hlisting := listing_trail hw 0 []
  rw [hpages, listing_zero] at hlisting
  exact hlisting

/-- A listing fails where a page is reached with which something is wrong. -/
theorem failsWith_of_visit {e : Error} (hreached : Reached (a.visit read site) first u)
    (hvisit : a.visit read site u = .error e) : FailsWith a read site first e := by
  obtain ⟨us, hus⟩ := exists_trail hreached
  refine ⟨us.length + 1, fun pages hpages => ?_⟩
  obtain ⟨more, rfl⟩ := Nat.exists_eq_add_of_le hpages
  rw [Nat.add_assoc, Nat.add_comm 1, listing_trail hus, listing_succ, hvisit, continued_error]

/-! ## Two pages -/

/-- The URL of a page of a platform. -/
def pageUrl (name : String) : Url where
  scheme := "http"
  authority := some ⟨"", "", .name "p", none⟩
  path := .steps [name]
  query := none
  fragment := none

set_option maxRecDepth 20000 in
theorem parse_pageUrl_one : Url.parse "http://p/1" = .ok (pageUrl "1") := by cbv

set_option maxRecDepth 20000 in
theorem parse_pageUrl_two : Url.parse "http://p/2" = .ok (pageUrl "2") := by cbv

/-- Two pages of environments: the first has a link to the second. -/
def twoPages (link : String) (url : Url) : Page Environment :=
  if url = pageUrl "1" then ⟨[⟨"1a5", "Default"⟩], some "http://p/2"⟩
  else ⟨[⟨"1a6", "Staging"⟩], some link⟩

/-- A platform with two pages. -/
def twoPageSite (link : String) : Site := fun url =>
  some ⟨200, Json.text ((twoPages link url).tree Environment.tree)⟩

/-- An account on it. -/
def twoPageAccount : Account := ⟨pageUrl "v2-beta", "access", "secret"⟩

/-- On a platform with two pages, each page is found where it is. -/
theorem visit_twoPageSite {link : String} {url : Url} (hhttp : url.isHttp = true)
    (hrequest : (twoPageAccount.request url).url = url) :
    twoPageAccount.visit Environment.ofForm? (twoPageSite link) url =
      ((twoPages link url).following url).map fun next => ((twoPages link url).items, next) := by
  have hpage : (Json.form? (Json.text ((twoPages link url).tree Environment.tree))).bind
      (Page.ofForm? Environment.ofForm?) = some (twoPages link url) := by
    rw [Json.form?_text, Option.bind_some, Page.ofForm?_tree Environment.ofForm?_tree]
  have hshown : twoPageAccount.shown Environment.ofForm? (twoPageSite link) url =
      .ok (twoPages link url) := by
    unfold Account.shown twoPageSite
    dsimp only
    rw [hrequest, if_pos hhttp, if_pos (by decide), hpage]
  rw [Account.visit, hshown]
  rfl

/-- The first page leads on to the second. -/
theorem visit_twoPageSite_one (link : String) :
    twoPageAccount.visit Environment.ofForm? (twoPageSite link) (pageUrl "1") =
      .ok ([⟨"1a5", "Default"⟩], some (pageUrl "2")) := by
  have hpage : twoPages link (pageUrl "1") = ⟨[⟨"1a5", "Default"⟩], some "http://p/2"⟩ := if_pos rfl
  rw [visit_twoPageSite (by decide +kernel) rfl, hpage,
    Page.following_of_parse rfl (by decide) parse_pageUrl_two, if_neg (by decide +kernel)]
  rfl

/-- The second page leads on where its link leads, unless that is the second page itself. -/
theorem visit_twoPageSite_two {link : String} {u : Url} (hlink : link ≠ "")
    (hparse : Url.parse link = .ok u) :
    twoPageAccount.visit Environment.ofForm? (twoPageSite link) (pageUrl "2") =
      .ok ([⟨"1a6", "Staging"⟩], if u.text = (pageUrl "2").text then none else some u) := by
  have hpage : twoPages link (pageUrl "2") = ⟨[⟨"1a6", "Staging"⟩], some link⟩ :=
    if_neg (by decide +kernel)
  rw [visit_twoPageSite (by decide +kernel) rfl, hpage,
    Page.following_of_parse rfl hlink hparse]
  rfl

/-- From two pages that lead on to one another or nowhere no others are reached. -/
theorem eq_or_eq_of_reached {visit : Url → Except Error (List α × Option Url)}
    {items items' : List α} {next : Option Url}
    (hu : visit u = .ok (items, some v)) (hv : visit v = .ok (items', next))
    (hnext : ∀ x ∈ next, x = u) (h : Reached visit u w) : w = u ∨ w = v := by
  induction h with
  | refl => exact .inl rfl
  | tail _ hleads ih =>
    obtain ⟨_, hw⟩ := hleads
    obtain rfl | rfl := ih
    · rw [hu] at hw
      exact .inr (Option.some.inj (Prod.mk.inj (Except.ok.inj hw)).2).symm
    · rw [hv] at hw
      exact .inl (hnext _ (Prod.mk.inj (Except.ok.inj hw)).2)

/-- So there is nothing wrong with the pages that are reached, and they are finitely many. -/
theorem good_of_two {visit : Url → Except Error (List α × Option Url)}
    {items items' : List α} {next : Option Url}
    (hu : visit u = .ok (items, some v)) (hv : visit v = .ok (items', next))
    (hnext : ∀ x ∈ next, x = u) :
    (∀ w, Reached visit u w → ∃ found, visit w = .ok found) ∧ {w | Reached visit u w}.Finite := by
  refine ⟨fun w hw => ?_, ?_⟩
  · obtain rfl | rfl := eq_or_eq_of_reached hu hv hnext hw
    · exact ⟨_, hu⟩
    · exact ⟨_, hv⟩
  · have hsubset : {w | Reached visit u w} ⊆ {u, v} :=
      fun w hw => eq_or_eq_of_reached hu hv hnext hw
    exact (Set.toFinite {u, v}).subset hsubset

/-! ## Which listings are complete -/

/-- Where there is nothing wrong with the pages that are reached, and finitely many of them are, a
listing is complete exactly if none of them leads back to itself by links to other pages, and never
ends otherwise; where something is wrong with one of them, the listing fails with that. Each request
has the credentials of the account. -/
theorem listing_completes_iff (a : Account) (read : Form → Option α) (site : Site) (first : Url) :
    ((∀ url, Reached (a.visit read site) first url → ∃ found, a.visit read site url = .ok found) →
      {url | Reached (a.visit read site) first url}.Finite →
      ((∃ urls, Completes a read site first urls) ↔
        ∀ url, Reached (a.visit read site) first url → ¬ LeadsBack (a.visit read site) url)) ∧
    (∀ url, Reached (a.visit read site) first url → LeadsBack (a.visit read site) url →
      NeverEnds a read site first) ∧
    (∀ url e, Reached (a.visit read site) first url → a.visit read site url = .error e →
      FailsWith a read site first e) ∧
    ∀ url, a.credentials ∈ (a.request url).authorization := by
  refine ⟨fun hgood hfinite => ⟨?_, fun hback => ?_⟩, fun _ => neverEnds_of_leadsBack,
    fun _ _ => failsWith_of_visit, fun url => ?_⟩
  · rintro ⟨urls, hurls⟩ url hreached hback
    exact hurls.not_neverEnds (neverEnds_of_leadsBack hreached hback)
  · obtain ⟨us, v, htrail, hlast⟩ := exists_trail_to_last hgood hfinite hback
    exact ⟨us ++ [v], completes_of_trail htrail hlast hback⟩
  · exact List.mem_append_right _ (List.mem_singleton_self _)

/-- A listing of two pages is complete where the second has a link to itself, and never ends where
it has one to the first; a listing on a platform that answers nothing fails. -/
theorem listing_completes_iff_twoPages :
    (∃ urls, Completes twoPageAccount Environment.ofForm? (twoPageSite "http://p/2")
      (pageUrl "1") urls) ∧
    NeverEnds twoPageAccount Environment.ofForm? (twoPageSite "http://p/1") (pageUrl "1") ∧
    FailsWith twoPageAccount Environment.ofForm? (fun _ => none) (pageUrl "1")
      (.http .request) := by
  refine ⟨?_, ?_, ?_⟩
  · have hfirst := visit_twoPageSite_one "http://p/2"
    have hsecond := visit_twoPageSite_two (by decide) parse_pageUrl_two
    rw [if_pos rfl] at hsecond
    obtain ⟨hgood, hfinite⟩ := good_of_two hfirst hsecond (fun _ hx => nomatch hx)
    refine ((listing_completes_iff _ _ _ _).1 hgood hfinite).2 fun url hreached hback => ?_
    -- The second page leads nowhere, so the first cannot be reached again either.
    have hlast : IsLast _ _ := ⟨_, hsecond⟩
    obtain ⟨v, hleads, hagain⟩ := TransGen.head'_iff.1 hback
    obtain rfl | rfl := eq_or_eq_of_reached hfirst hsecond (fun _ hx => nomatch hx) hreached
    · rw [hleads.unique ⟨_, hfirst⟩] at hagain
      obtain hsame | ⟨x, hx, -⟩ := ReflTransGen.cases_head hagain
      · exact absurd hsame (by decide)
      · exact hlast.not_leads hx
    · exact hlast.not_leads hleads
  · have hsecond := visit_twoPageSite_two (by decide) parse_pageUrl_one
    rw [if_neg (by decide +kernel)] at hsecond
    refine (listing_completes_iff _ _ _ _).2.1 (pageUrl "1") .refl ?_
    exact .head ⟨_, visit_twoPageSite_one _⟩ (.single ⟨_, hsecond⟩)
  · exact (listing_completes_iff _ _ _ _).2.2.1 (pageUrl "1") _ .refl rfl

/-- Not every listing of finitely many pages with which nothing is wrong ends: two pages that lead
to one another are asked for again and again. -/
theorem not_listing_ends : ¬ ∀ (a : Account) (site : Site) (first : Url),
    (∀ url, Reached (a.visit Environment.ofForm? site) first url →
      ∃ found, a.visit Environment.ofForm? site url = .ok found) →
    {url | Reached (a.visit Environment.ofForm? site) first url}.Finite →
    ∃ pages items, (a.listing Environment.ofForm? site pages first []).1 = .ok (some items) := by
  intro h
  have hfirst := visit_twoPageSite_one "http://p/1"
  have hsecond := visit_twoPageSite_two (by decide) parse_pageUrl_one
  rw [if_neg (by decide +kernel)] at hsecond
  obtain ⟨hgood, hfinite⟩ :=
    good_of_two hfirst hsecond (fun x hx => (Option.some.inj hx).symm)
  obtain ⟨pages, items, hends⟩ := h _ _ _ hgood hfinite
  have hback : LeadsBack _ _ := .head ⟨_, hfirst⟩ (.single ⟨_, hsecond⟩)
  obtain ⟨_, -, hlisting⟩ := neverEnds_of_leadsBack .refl hback pages
  rw [hlisting] at hends
  cases hends

end Platform

end AlertSync
