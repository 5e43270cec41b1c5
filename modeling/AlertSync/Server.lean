import AlertSync.Json.Printer
import AlertSync.Registry
import AlertSync.Url.Reader

/-!
# The operational endpoint

Two resources tell how the process is doing: `/health`, whether the store answers, and `/metrics`,
what was counted. Both can only be read.
-/

namespace AlertSync.Server

/-- What is sent back. -/
structure Reply where
  status : Nat
  contentType : Option String
  body : String
  deriving DecidableEq, Repr

/-- A reply without a body. -/
def Reply.bare (status : Nat) : Reply := ⟨status, none, ""⟩

/-- A reply with a JSON body. -/
def Reply.json (status : Nat) (t : Tree) : Reply := ⟨status, some "application/json", Json.text t⟩

/-- Healthy is a process whose store answers. -/
def health : Program Reply := do
  match ← (Registry.objects .alertConfig).outcome with
  | .ok _ => return .json 200 (.record [("status", .text "healthy")])
  | .error e =>
    return .json 503 (.record [("error", .text e.message), ("status", .text "unhealthy")])

/-- What was counted. -/
def metrics : Program Reply := do
  let counters ← (Program.ask .counters : Program Counters)
  return ⟨200, some "text/plain; version=0.0.4", counters.text⟩

/-- The resource at a path. -/
def resource? (path : String) : Option (Program Reply) :=
  match path with
  | "/health" => some health
  | "/metrics" => some metrics
  | _ => none

/-- What follows the scheme and the authority of a request target that has them. -/
def afterAuthority (target : List Char) : List Char :=
  let isSchemeChar (c : Char) : Bool := c.isAlphanum || ['+', '-', '.'].contains c
  match target.takeWhile isSchemeChar, target.dropWhile isSchemeChar with
  | _ :: _, ':' :: '/' :: '/' :: rest =>
    rest.dropWhile fun c => c != '/' && c != '?' && c != '#'
  | _, _ => target

/-- The path of a request target, without its query. -/
def pathOf (target : String) : String :=
  String.ofList ((afterAuthority target.toList).takeWhile fun c => c != '?' && c != '#')

/-- Answers a request. A resource is read with `GET`, and with `HEAD` without its body. -/
def respond (method target : String) : Program Reply :=
  match resource? (pathOf target) with
  | none => return .bare 404
  | some resource =>
    match method with
    | "GET" => resource
    | "HEAD" => do return { ← resource with body := "" }
    | _ => return .bare 405

/-- A number of an address: decimal, octal after `0`, or hexadecimal after `0x`. -/
def addressNumber? (cs : List Char) : Option Nat :=
  match cs with
  | '0' :: 'x' :: r | '0' :: 'X' :: r => Numeral.ofRadix? 16 r
  | '0' :: d :: r => Numeral.ofRadix? 8 (d :: r)
  | _ => Numeral.ofRadix? 10 cs

/-- The address that up to four numbers make: each but the last is one byte, and the last fills what
is left of the four. -/
def address? (host : String) : Option Nat := do
  let numbers ← (host.splitOn ".").mapM fun part => addressNumber? part.toList
  let last ← numbers.getLast?
  let first := numbers.dropLast
  if 4 < numbers.length || first.any (255 < ·) || 1 <<< (8 * (4 - first.length)) ≤ last then none
  else some (first.zipIdx.foldl (fun n (p : Nat × Nat) => n + p.1 <<< (8 * (3 - p.2))) last)

/-- Whether an address is one of this machine, of all its networks, or of a group: one can listen at
any other only where it was given to the machine. -/
def isLocalAddress (address : Nat) : Bool :=
  let first := address >>> 24
  address == 0 || first == 127 || (224 ≤ first && first < 240) || address + 1 == UInt32.size

/-- Whether eight pieces are the address of this machine, or of all its networks. -/
def isLocalPieces (pieces : List Nat) : Bool :=
  pieces.dropLast.all (· == 0) && pieces.getLast?.any (· ≤ 1)

/-- Whether a host is this machine, by its name or by an address. -/
def isLocal (host : String) : Bool :=
  host.toList.map Char.toLower == "localhost".toList || (address? host).any isLocalAddress ||
    (Url.ipv6? host).any isLocalPieces

/-- Whether a text names a port, in decimal. A plus sign may stand before it, but not behind
brackets. -/
def isPort (bracketed : Bool) (cs : List Char) : Bool :=
  let digits := match cs with
    | '+' :: digits => if bracketed then cs else digits
    | _ => cs
  (Numeral.below? UInt16.size digits).isSome

/-- Whether the server can listen at an address: a host that is this machine, and behind the last
colon a port. An address of eight pieces may stand between brackets. -/
def canListen (address : String) : Bool :=
  match Url.splitLast ':' address.toList with
  | (none, _) => false
  | (some ('[' :: host), port) =>
    host.getLast? == some ']' && isPort true port &&
      (Url.ipv6? (String.ofList host.dropLast)).any isLocalPieces
  | (some host, port) => isLocal (String.ofList host) && isPort false port

end AlertSync.Server
