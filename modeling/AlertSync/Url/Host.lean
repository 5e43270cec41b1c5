import AlertSync.Numeral.Decimal
import AlertSync.Url.Domain
import AlertSync.Url.Error
import AlertSync.Url.Percent

/-!
# Hosts

The host of a URL is an address of four bytes, an address of eight pieces, or a name. A name whose
last part is a number is an address, and an address may be written with fewer, larger parts and in
octal or hexadecimal. Names are kept in ASCII and in small letters, and it is in that form that they
must not have certain characters.
-/

namespace AlertSync.Url

/-- A host. -/
inductive Host
  | name (text : String)
  | ipv4 (address : Nat)
  | ipv6 (pieces : List Nat)
  deriving DecidableEq, Repr

/-- The number that digits of a base stand for. -/
def ofDigits? (base : Nat) (cs : List Char) : Option Nat :=
  cs.foldlM (fun n c => do
    let d ← Numeral.hexDigit? c
    if d < base then some (n * base + d) else none) 0

/-- One number of an address: decimal, octal after `0`, or hexadecimal after `0x`. -/
def ipv4Number? (cs : List Char) : Option Nat :=
  match cs with
  | [] => none
  | '0' :: 'x' :: rest | '0' :: 'X' :: rest => ofDigits? 16 rest
  | '0' :: d :: rest => ofDigits? 8 (d :: rest)
  | _ => ofDigits? 10 cs

/-- The parts of a dotted name; an empty one at the end does not count. -/
def dottedParts (s : String) : List String :=
  let parts := s.splitOn "."
  if parts.getLast? == some "" then parts.dropLast else parts

/-- Whether a name is to be read as an address. -/
def endsInNumber (s : String) : Bool :=
  match (dottedParts s).getLast? with
  | none => false
  | some last =>
    (last != "" && last.toList.all Char.isDigit) || (ipv4Number? last.toList).isSome

/-- The address of four bytes that is written in up to four numbers: each but the last is one
byte, and the last fills what is left. -/
def ipv4? (s : String) : Option Nat := do
  let parts := dottedParts s
  let numbers ← parts.mapM fun p => ipv4Number? p.toList
  let last ← numbers.getLast?
  let first := numbers.dropLast
  if 4 < numbers.length || first.any (255 < ·) || 1 <<< (8 * (4 - first.length)) ≤ last then none
  else some (first.zipIdx.foldl (fun n (p : Nat × Nat) => n + p.1 <<< (8 * (3 - p.2))) last)

/-- One piece of an address of eight: up to four hexadecimal digits. -/
def piece? (s : String) : Option Nat :=
  if 0 < s.length && s.length ≤ 4 then ofDigits? 16 s.toList else none

/-- One byte in decimal, without leading zeros. -/
def byte? (s : String) : Option Nat :=
  if s.isEmpty || 3 < s.length || (1 < s.length && s.startsWith "0") then none
  else (ofDigits? 10 s.toList).filter (· < 256)

/-- The two pieces that four bytes make. -/
def embedded? (s : String) : Option (List Nat) :=
  match (s.splitOn ".").mapM byte? with
  | some [a, b, c, d] => some [256 * a + b, 256 * c + d]
  | _ => none

/-- The pieces between two ends; the last two may be written as four bytes. -/
def pieces? (mayEmbed : Bool) (s : String) : Option (List Nat) :=
  if s.isEmpty then some []
  else
    let groups := s.splitOn ":"
    let last := groups.getLastD ""
    if mayEmbed && last.contains '.' then do
      return (← groups.dropLast.mapM piece?) ++ (← embedded? last)
    else groups.mapM piece?

/-- The address of eight pieces; two colons stand for as many zeros as are missing. -/
def ipv6? (s : String) : Option (List Nat) := do
  match s.splitOn "::" with
  | [whole] =>
    let pieces ← pieces? true whole
    if pieces.length == 8 then some pieces else none
  | [left, right] =>
    let l ← pieces? false left
    let r ← pieces? true right
    if l.length + r.length ≤ 7 then
      some (l ++ List.replicate (8 - l.length - r.length) 0 ++ r)
    else none
  | _ => none

/-- The characters that the name of a host must not have. -/
def isForbidden (c : Char) : Bool :=
  c.toNat == 0 || [' ', '#', '/', ':', '<', '>', '?', '@', '[', '\\', ']', '^', '|', '\t', '\n',
    '\r'].contains c

/-- The characters that a name in ASCII must not have, either. -/
def isForbiddenInName (c : Char) : Bool := isForbidden c || isControl c || c == '%'

namespace Host

/-- Reads the host of a URL with a special scheme. -/
def ofText (s : String) : Except UrlError Host :=
  if s.startsWith "[" then
    if s.endsWith "]" then
      match ipv6? (String.ofList (s.toList.drop 1).dropLast) with
      | some pieces => .ok (ipv6 pieces)
      | none => .error .invalidIpv6
    else .error .invalidIpv6
  else
    match (percentDecoded? s).bind fun decoded => asciiName? decoded.toList with
    | none => .error .invalidDomainName
    | some ascii =>
      if ascii.toList.any isForbiddenInName then .error .invalidDomainName
      else if ascii.isEmpty then .error .emptyHost
      else if endsInNumber ascii then
        match ipv4? ascii with
        | some address => .ok (ipv4 address)
        | none => .error .invalidIpv4
      else .ok (name ascii)

/-- Reads the host of a URL with any other scheme. -/
def ofForeignText (s : String) : Except UrlError Host :=
  if s.startsWith "[" then ofText s
  else if s.toList.any isForbidden then .error .invalidDomainCharacter
  else .ok (name (percentEncode isControl s.toList))

/-- Whether a request can carry the name of a host. Some characters may stand in a name but not in
a request. -/
def fitsRequest : Host → Bool
  | name s => !s.toList.any fun c => ['"', '\x60', '\x7b', '\x7d'].contains c
  | _ => true

/-- The longest run of at least two zeros: where it begins, and how long it is. -/
def longestZeros (pieces : List Nat) : Option (Nat × Nat) :=
  let runs := (List.range pieces.length).map fun i =>
    (i, ((pieces.drop i).takeWhile (· == 0)).length)
  runs.foldl (fun best run =>
    if run.2 < 2 then best
    else match best with
      | some b => if b.2 < run.2 then some run else best
      | none => some run) none

/-- Pieces in hexadecimal, with colons between them. -/
def piecesText (pieces : List Nat) : String :=
  String.intercalate ":" (pieces.map fun n => String.ofList (Nat.toDigits 16 n))

/-- The text of a host. -/
def text : Host → String
  | name s => s
  | ipv4 n =>
    String.intercalate "." ([24, 16, 8, 0].map fun k =>
      String.ofList (Numeral.decimal (n >>> k % 256)))
  | ipv6 pieces =>
    match longestZeros pieces with
    | none => "[" ++ piecesText pieces ++ "]"
    | some (start, length) =>
      "[" ++ piecesText (pieces.take start) ++ "::" ++ piecesText (pieces.drop (start + length)) ++
        "]"

end Host

end AlertSync.Url
