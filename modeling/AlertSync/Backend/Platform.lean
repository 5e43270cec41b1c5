import AlertSync.Http
import AlertSync.Inventory

/-!
# The platform

It owns the hosts, and lists them page by page: each page holds some of the items and may have a
link to the next. A listing goes on until a page has no link, or one that leads back to itself.
-/

namespace AlertSync.Platform

open Http

/-- Where the platform is, and the account on it. -/
structure Account where
  base : Url
  accessKey : String
  secretKey : String

/-- The account at an address. -/
def Account.ofAddress (address accessKey secretKey : String) : Except Error Account :=
  match Url.parse address with
  | .ok base => .ok ⟨base.withSlash, accessKey, secretKey⟩
  | .error cause => .error (.url cause)

/-- How many items a page may have. -/
def pageLimit : String := "1000"

/-- Where a listing begins. -/
def Account.endpoint (a : Account) (path : String) : Except Error Url :=
  match a.base.join path with
  | .ok u => .ok (u.withField "limit" pageLimit)
  | .error cause => .error (.url cause)

/-- A page of a listing. -/
structure Page (α : Type) where
  items : List α
  /-- The link to the next page. -/
  next : Option String

/-- Reads a page; nothing must be given. -/
def Page.ofForm? {α : Type} (read : Form → Option α) (f : Form) : Option (Page α) := do
  let ps ← f.parts? ["data", "pagination"]
  let next (g : Form) : Option (Option String) := do
    Form.part? (← g.parts? ["next"]) "next" none (Form.optional? Form.text?)
  let pagination ← Form.part? ps "pagination" none (Form.optional? next)
  return ⟨← Form.part? ps "data" [] (Form.list? read), pagination.join⟩

/-- Where a page leads on to from its URL. -/
def Page.following {α : Type} (p : Page α) (url : Url) : Except Error (Option Url) :=
  match p.next with
  | none | some "" => .ok none
  | some link =>
    match Url.parse link with
    | .ok u => .ok (if u.text = url.text then none else some u)
    | .error cause => .error (.url cause)

/-- The credentials of an account. -/
def Account.credentials (a : Account) : String :=
  Request.basicAuthorization a.accessKey a.secretKey

/-- The request for the page at a URL. The credentials of the account are sent behind those in the
URL, if there are any. -/
def Account.request (a : Account) (url : Url) : Request :=
  let bare := Request.bare .get url
  { bare with authorization := bare.authorization ++ [a.credentials] }

/-- The page at a URL. -/
def Account.page {α : Type} (a : Account) (read : Form → Option α) (url : Url) :
    Conversation (Page α) := do
  Conversation.value (Page.ofForm? read) (← Conversation.succeed (a.request url))

/-- The items of at most so many pages, beginning at a URL; nothing if the pages go on. -/
def Account.collect {α : Type} (a : Account) (read : Form → Option α) :
    Nat → Url → Conversation (Option (List α))
  | 0, _ => return none
  | pages + 1, url => do
    let page ← a.page read url
    match ← Conversation.ofExcept (page.following url) with
    | none => return some page.items
    | some link => return (← a.collect read pages link).map (page.items ++ ·)

/-- The environments of the platform, if they fit into so many pages. -/
def Account.environments (a : Account) (pages : Nat) :
    Conversation (Option (List Environment)) := do
  a.collect Environment.ofForm? pages (← Conversation.ofExcept (a.endpoint "v2-beta/projects"))

/-- The hosts of an environment, if they fit into so many pages. -/
def Account.hosts (a : Account) (environment : String) (pages : Nat) :
    Conversation (Option (List Host)) := do
  a.collect Host.ofForm? pages
    (← Conversation.ofExcept (a.endpoint ("v2-beta/projects/" ++ environment ++ "/hosts")))

end AlertSync.Platform
