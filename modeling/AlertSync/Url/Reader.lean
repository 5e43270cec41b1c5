import AlertSync.Url

/-!
# Reading URLs

`Url.parse` reads a whole URL and `Url.join` a link that may leave out what it has in common with
the URL of the page that it stands on. Blanks and controls around a URL, and tabs and ends of lines
within it, do not count. In a URL with a special scheme a backslash counts as a slash, and any
number of slashes leads to the host. Steps of one or two dots are resolved at once.
-/

namespace AlertSync.Url

/-- The characters of a URL that count. -/
def relevant (s : String) : List Char :=
  let outer (c : Char) : Bool := c.toNat ≤ 32
  let trimmed := ((s.toList.dropWhile outer).reverse.dropWhile outer).reverse
  trimmed.filter fun c => c != '\t' && c != '\n' && c != '\r'

/-- The scheme at the head of a text, in small letters, and what follows its colon. -/
def scheme? (cs : List Char) : Option (String × List Char) :=
  let isPart (c : Char) : Bool := c.isAlphanum || ['+', '-', '.'].contains c
  match cs.takeWhile isPart, cs.dropWhile isPart with
  | c :: name, ':' :: rest =>
    if c.isAlpha then some (String.ofList ((c :: name).map Char.toLower), rest) else none
  | _, _ => none

/-- Whether a scheme is special. -/
def isSpecialScheme (scheme : String) : Bool :=
  scheme == "file" || (specialPorts.lookup scheme).isSome

/-- Whether a character separates steps. -/
def isSlash (special : Bool) (c : Char) : Bool := c == '/' || (special && c == '\\')

/-- Whether a path ends before a character. -/
def endsPath (c : Char) : Bool := c == '?' || c == '#'

/-- The query and fragment that a text consists of. -/
def tailOf (special : Bool) (cs : List Char) : Option String × Option String :=
  let isEncoded := if special then inSpecialQuery else inQuery
  let before := cs.takeWhile (· != '#')
  let query := match before with
    | '?' :: q => some (percentEncode isEncoded q)
    | _ => none
  let fragment := match cs.dropWhile (· != '#') with
    | '#' :: f => some (percentEncode inFragment f)
    | _ => none
  (query, fragment)

/-- The dots that a step consists of, some of which may be encoded. -/
def dots? : List Char → Option Nat
  | [] => some 0
  | '.' :: rest => (dots? rest).map (· + 1)
  | '%' :: '2' :: 'e' :: rest | '%' :: '2' :: 'E' :: rest => (dots? rest).map (· + 1)
  | _ => none

/-- A text as the steps between its slashes. -/
def rawSteps (special : Bool) : List Char → List (List Char)
  | [] => [[]]
  | c :: rest =>
    match rawSteps special rest with
    | [] => [[c]]
    | first :: others =>
      if isSlash special c then [] :: first :: others else (c :: first) :: others

/-- Goes the steps of a text from a place in the hierarchy. -/
def goSteps (place : List String) : List (List Char) → List String
  | [] => place
  | step :: rest =>
    match dots? step with
    | some 1 => goSteps (if rest.isEmpty then place ++ [""] else place) rest
    | some 2 => goSteps (if rest.isEmpty then place.dropLast ++ [""] else place.dropLast) rest
    | _ => goSteps (place ++ [percentEncode inPath step]) rest

/-- The steps that a text leads to from a place in the hierarchy. -/
def stepsFrom (place : List String) (special : Bool) (cs : List Char) : List String :=
  goSteps place (rawSteps special (cs.takeWhile fun c => !endsPath c))

/-- The path of a text behind an authority. -/
def pathOf (special : Bool) (cs : List Char) : List String :=
  match cs with
  | [] => if special then [""] else []
  | c :: rest =>
    if isSlash special c then stepsFrom [] special rest
    else if special then stepsFrom [] special cs
    else if endsPath c then []
    else stepsFrom [] special cs

/-- The port at the end of an authority. -/
def port? (scheme : String) (cs : List Char) : Except UrlError (Option Nat) :=
  let n := Numeral.ofDecimal cs
  if !cs.all Char.isDigit || 65535 < n then .error .invalidPort
  else if cs.isEmpty || specialPorts.lookup scheme == some n then .ok none
  else .ok (some n)

/-- The host before a colon outside of brackets, and what follows. -/
def hostEnd : Bool → List Char → List Char × List Char
  | _, [] => ([], [])
  | inside, c :: rest =>
    if c == ':' && !inside then ([], c :: rest)
    else
      let inside := c == '[' || (inside && c != ']')
      let (host, after) := hostEnd inside rest
      (c :: host, after)

/-- The part of a text before the last of a character, if it occurs, and the part behind it. -/
def splitLast (c : Char) (cs : List Char) : Option (List Char) × List Char :=
  let behind := (cs.reverse.takeWhile (· != c)).reverse
  if behind.length == cs.length then (none, cs)
  else (some (cs.take (cs.length - behind.length - 1)), behind)

/-- Reads an authority. -/
def authorityOf (scheme : String) (cs : List Char) : Except UrlError Authority := do
  let special := isSpecialScheme scheme
  let (userinfo, place) := splitLast '@' cs
  let (host, after) := hostEnd false place
  let login := userinfo.getD []
  let user := login.takeWhile (· != ':')
  let password := (login.dropWhile (· != ':')).drop 1
  if host.isEmpty && (special || userinfo.isSome || !after.isEmpty) then throw .emptyHost
  let h ← (if special then Host.ofText else Host.ofForeignText) (String.ofList host)
  return {
    user := percentEncode inUserinfo user
    password := percentEncode inUserinfo password
    host := h
    port := ← port? scheme (after.drop 1) }

/-- A URL with an authority, from what follows the slashes before it. -/
def withAuthority (scheme : String) (cs : List Char) : Except UrlError Url := do
  let special := isSpecialScheme scheme
  let inAuthority (c : Char) : Bool := !isSlash special c && !endsPath c
  let authority ← authorityOf scheme (cs.takeWhile inAuthority)
  let rest := cs.dropWhile inAuthority
  let (query, fragment) := tailOf special (rest.dropWhile fun c => !endsPath c)
  return ⟨scheme, some authority, .steps (pathOf special rest), query, fragment⟩

/-- Whether a text names a drive: a letter and a colon or a bar. -/
def isDrive : List Char → Bool
  | [letter, mark] => letter.isAlpha && (mark == ':' || mark == '|')
  | _ => false

/-- A URL of a local file: its host may be left out, and is where it is this machine. The name of a
drive in its place belongs to the path. -/
def fileUrl (cs : List Char) : Except UrlError Url := do
  let slashes := cs.takeWhile (isSlash true)
  let (place, rest) := if slashes.length < 2 then ([], cs)
    else
      let inHost (c : Char) : Bool := !isSlash true c && !endsPath c
      let host := (cs.drop 2).takeWhile inHost
      if isDrive host then ([], cs.drop 2) else (host, (cs.drop 2).dropWhile inHost)
  let authority ← if place.isEmpty then pure none
    else do
      let host ← Host.ofText (String.ofList place)
      pure (if host == .name "localhost" then none else some ⟨"", "", host, none⟩)
  let (query, fragment) := tailOf true (rest.dropWhile fun c => !endsPath c)
  return ⟨"file", authority, .steps (pathOf true rest), query, fragment⟩

/-- Reads what follows a scheme. -/
def afterScheme (scheme : String) (cs : List Char) : Except UrlError Url :=
  if scheme == "file" then fileUrl cs
  else if isSpecialScheme scheme then withAuthority scheme (cs.dropWhile (isSlash true))
  else
    match cs with
    | '/' :: '/' :: rest => withAuthority scheme rest
    | '/' :: _ =>
      let (query, fragment) := tailOf false (cs.dropWhile fun c => !endsPath c)
      .ok ⟨scheme, none, .steps (pathOf false cs), query, fragment⟩
    | _ =>
      let (query, fragment) := tailOf false (cs.dropWhile fun c => !endsPath c)
      let path := percentEncode isControl (cs.takeWhile fun c => !endsPath c)
      .ok ⟨scheme, none, .plain path, query, fragment⟩

/-- Reads a URL. -/
def parse (s : String) : Except UrlError Url :=
  match scheme? (relevant s) with
  | some (scheme, rest) => afterScheme scheme rest
  | none => .error .relativeWithoutBase

/-- The link of a text without a scheme, on a page with a path of steps. -/
def relativeLink (page : Url) (place : List String) (cs : List Char) : Except UrlError Url :=
  let special := isSpecialScheme page.scheme
  let (query, fragment) := tailOf special (cs.dropWhile fun c => !endsPath c)
  match cs with
  | [] => .ok { page with fragment := none }
  | '#' :: _ => .ok { page with fragment := fragment }
  | '?' :: _ => .ok { page with query := query, fragment := fragment }
  | c :: rest =>
    if isSlash special c then
      if (rest.head?.map (isSlash special)).getD false then
        afterScheme page.scheme cs
      else
        .ok { page with
          path := .steps (stepsFrom [] special rest), query := query, fragment := fragment }
    else
      .ok { page with
        path := .steps (stepsFrom place.dropLast special cs)
        query := query
        fragment := fragment }

/-- Reads a link on a page. -/
def join (page : Url) (s : String) : Except UrlError Url :=
  let cs := relevant s
  match scheme? cs with
  | some (scheme, rest) =>
    let absolute := 2 ≤ (rest.takeWhile (isSlash true)).length
    match page.path with
    | .steps place =>
      if scheme == page.scheme && scheme != "file" && isSpecialScheme scheme && !absolute then
        relativeLink page place rest
      else afterScheme scheme rest
    | .plain _ => afterScheme scheme rest
  | none =>
    match page.path, cs with
    | .steps place, _ => relativeLink page place cs
    | .plain _, '#' :: f => .ok { page with fragment := some (percentEncode inFragment f) }
    | .plain _, _ => .error .relativeToOpaque

end AlertSync.Url
