import AlertSync.Form
import AlertSync.Tree

/-!
# The inventory of the platform

The platform groups hosts into environments. Each host has an address under which its agent is
reached and the endpoints that it publishes.
-/

namespace AlertSync

/-- A group of hosts. -/
structure Environment where
  id : String
  name : String
  deriving DecidableEq, Repr

/-- Reads an environment; a missing name is empty. -/
def Environment.ofForm? (f : Form) : Option Environment := do
  let ps ← f.parts? ["id", "name"]
  return ⟨← Form.required? ps "id" Form.text?,
    ← Form.part? ps "name" "" (Form.orElse? "" Form.text?)⟩

/-- The value that an environment is shown as. -/
def Environment.tree (e : Environment) : Tree :=
  .record [("id", .text e.id), ("name", .text e.name)]

/-- An address and port at which a host publishes something. -/
structure Endpoint where
  port : Nat
  ipAddress : String
  deriving DecidableEq, Repr

/-- Reads an endpoint; its port must be given. -/
def Endpoint.ofForm? (f : Form) : Option Endpoint := do
  let ps ← f.parts? ["port", "ipAddress"]
  return ⟨← Form.required? ps "port" Form.port?,
    ← Form.part? ps "ipAddress" "" (Form.orElse? "" Form.text?)⟩

/-- A machine of the platform. -/
structure Host where
  id : String
  agentAddress : String
  endpoints : List Endpoint
  deriving DecidableEq, Repr

namespace Host

/-- Whether a host publishes a port. -/
def publishes (h : Host) (port : Nat) : Bool := h.endpoints.any (fun e => e.port == port)

/-- Reads a host; only its id must be given. -/
def ofForm? (f : Form) : Option Host := do
  let ps ← f.parts? ["id", "agentIpAddress", "publicEndpoints"]
  return {
    id := ← Form.required? ps "id" Form.text?
    agentAddress := ← Form.part? ps "agentIpAddress" "" (Form.orElse? "" Form.text?)
    endpoints := ← Form.part? ps "publicEndpoints" []
      (Form.orElse? [] (Form.list? Endpoint.ofForm?)) }

/-- The value that a host is shown as. -/
def tree (h : Host) : Tree :=
  .record [("id", .text h.id), ("agentIpAddress", .text h.agentAddress),
    ("publicEndpoints", .list (h.endpoints.map fun e =>
      .record [("port", .number e.port), ("ipAddress", .text e.ipAddress)]))]

end Host

/-- The environments of the platform, each with its hosts. -/
abbrev Inventory := List (Environment × List Host)

end AlertSync
