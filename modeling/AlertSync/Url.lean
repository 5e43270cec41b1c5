import AlertSync.Url.Host

/-!
# URLs

A URL has a scheme, perhaps an authority, a path, and perhaps a query and a fragment, all of them
kept in the encoded form in which they are written. A path is a list of steps, or, where the URL
names something without a place in a hierarchy, a plain text.
-/

namespace AlertSync

/-- The path of a URL. -/
inductive UrlPath
  /-- No hierarchy: a text, from which no link leads on. -/
  | plain (text : String)
  /-- The steps from the root, each written after a slash. -/
  | steps (l : List String)
  deriving DecidableEq, Repr

/-- Where a URL is served, and for whom. -/
structure Authority where
  user : String
  password : String
  host : Url.Host
  /-- The port, unless it is the one that goes without saying. -/
  port : Option Nat
  deriving DecidableEq, Repr

/-- A URL. -/
structure Url where
  scheme : String
  authority : Option Authority
  path : UrlPath
  query : Option String
  fragment : Option String
  deriving DecidableEq, Repr

namespace UrlPath

/-- The text of a path. -/
def text : UrlPath → String
  | plain s => s
  | steps l => String.join (l.map ("/" ++ ·))

/-- The path with a slash at its end. -/
def withSlash : UrlPath → UrlPath
  | plain s => plain (if s.endsWith "/" then s else s ++ "/")
  | steps l => steps (if l.getLast? == some "" then l else l ++ [""])

end UrlPath

namespace Authority

/-- The text of an authority. -/
def text (a : Authority) : String :=
  (if a.user == "" && a.password == "" then ""
    else a.user ++ (if a.password == "" then "" else ":" ++ a.password) ++ "@") ++
  a.host.text ++
  match a.port with
  | some p => ":" ++ String.ofList (Numeral.decimal p)
  | none => ""

end Authority

namespace Url

/-- The schemes whose URLs always have a host and a path, with their ports. -/
def specialPorts : List (String × Nat) :=
  [("http", 80), ("https", 443), ("ws", 80), ("wss", 443), ("ftp", 21)]

/-- The text of a URL. -/
def text (u : Url) : String :=
  u.scheme ++ ":" ++
  (match u.authority with
    | some a => "//" ++ a.text
    | none => if u.path.text.startsWith "//" then "/." else "") ++
  u.path.text ++
  (match u.query with
    | some q => "?" ++ q
    | none => "") ++
  match u.fragment with
  | some f => "#" ++ f
  | none => ""

/-- Whether a request can be sent to a URL: the scheme is one for requests, the host is known by a
name that requests can carry, and the URL is not too long for them. -/
def isHttp (u : Url) : Bool :=
  (u.scheme == "http" || u.scheme == "https") && u.authority.any (·.host.fitsRequest) &&
    u.text.utf8ByteSize < 65535

/-- The URL with a slash at the end of its path. -/
def withSlash (u : Url) : Url := { u with path := u.path.withSlash }

/-- The URL with a form field added to its query. -/
def withField (u : Url) (name value : String) : Url :=
  let field := formEncode name ++ "=" ++ formEncode value
  { u with query := match u.query with
      | some q => some (if q == "" then field else q ++ "&" ++ field)
      | none => some field }

end Url

end AlertSync
