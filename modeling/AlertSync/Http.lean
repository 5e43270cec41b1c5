import AlertSync.Error
import AlertSync.Http.Status
import AlertSync.Json.Reader
import AlertSync.Text.Base64
import AlertSync.Text.Blank
import AlertSync.Tree
import AlertSync.Url.Reader

/-!
# Exchanges with a peer

A client sends requests to a peer and goes on with its responses. An `Exchange` is such a course:
it is over, or it sends a request and goes on with the response, or with the fact that there was
none. What the peer does is left to whoever runs the exchange.
-/

namespace AlertSync.Http

inductive Method
  | get
  | post
  | delete
  deriving DecidableEq, Repr

/-- The word for a method. -/
def Method.name : Method → String
  | get => "GET"
  | post => "POST"
  | delete => "DELETE"

/-- What a client sends. -/
structure Request where
  method : Method
  url : Url
  /-- The credentials, one header for each, in the order in which they are sent. -/
  authorization : List String
  /-- A body in JSON. -/
  body : Option Tree

namespace Request

/-- The credentials of a user. -/
def basicAuthorization (user password : String) : String :=
  "Basic " ++ String.ofList (Text.base64 (Url.bytesOf (user ++ ":" ++ password)))

/-- A request without a body and credentials of its own. The user and the password in the URL
count and leave it, unless the name of the user is no text; a password that is no text does not
count. -/
def bare (method : Method) (url : Url) : Request :=
  let inUrl : Request := ⟨method, url, [], none⟩
  match url.authority with
  | none => inUrl
  | some a =>
    match Url.percentDecoded? a.user with
    | none => inUrl
    | some user =>
      let password := if a.password == "" then none else Url.percentDecoded? a.password
      if user == "" && password.isNone then inUrl
      else
        ⟨method, { url with authority := some { a with user := "", password := "" } },
          [basicAuthorization user (password.getD "")], none⟩

/-- The type of the body. -/
def contentType (r : Request) : Option String := r.body.map fun _ => "application/json"

end Request

/-- What a peer sends back. -/
structure Response where
  status : Nat
  body : String
  deriving DecidableEq, Repr

/-- A course of requests and responses. -/
inductive Exchange (α : Type) : Type
  | done (a : α)
  | send (r : Request) (next : Option Response → Exchange α)

namespace Exchange

variable {α β σ : Type}

/-- One exchange after the other. -/
def bind : Exchange α → (α → Exchange β) → Exchange β
  | done a, f => f a
  | send r next, f => send r fun x => bind (next x) f

instance : Monad Exchange where
  pure := done
  bind := bind

/-- What an exchange comes to with a peer, and what becomes of the peer. -/
def run (peer : Request → σ → Option Response × σ) : Exchange α → σ → α × σ
  | done a, s => (a, s)
  | send r next, s => let (x, s') := peer r s; run peer (next x) s'

/-- One exchange after the other comes to what the second does where the first has ended. -/
theorem run_bind (peer : Request → σ → Option Response × σ) (x : Exchange α) (f : α → Exchange β)
    (s : σ) : run peer (bind x f) s = run peer (f (run peer x s).1) (run peer x s).2 := by
  induction x generalizing s with
  | done a => rfl
  | send r next ih => exact ih _ _

/-- What an exchange comes to if no request gets through. -/
def unanswered : Exchange α → α
  | done a => a
  | send _ next => unanswered (next none)

end Exchange

/-- A peer that gives one response after the other, and none after the last; the requests that it
gets are kept. -/
def scripted (r : Request) (s : List (Option Response) × List Request) :
    Option Response × List (Option Response) × List Request :=
  (s.1.head?.join, s.1.tail, s.2 ++ [r])

/-- An exchange that may fail. -/
abbrev Conversation (α : Type) := ExceptT Error Exchange α

namespace Conversation

variable {α β σ : Type}

/-- What a conversation comes to with a peer, and what becomes of the peer. -/
def outcome (peer : Request → σ → Option Response × σ) (c : Conversation α) (s : σ) :
    Except Error α × σ :=
  Exchange.run peer c.run s

/-- One conversation after the other: the second is held only if the first did not fail. -/
theorem outcome_bind (peer : Request → σ → Option Response × σ) (c : Conversation α)
    (f : α → Conversation β) (s : σ) : outcome peer (c >>= f) s =
      match outcome peer c s with
      | (.ok a, s') => outcome peer (f a) s'
      | (.error e, s') => (.error e, s') := by
  have hrun : outcome peer (c >>= f) s =
      Exchange.run peer (Exchange.bind c.run (ExceptT.bindCont f)) s := rfl
  rw [hrun, Exchange.run_bind]
  unfold outcome
  cases Exchange.run peer c.run s with
  | mk result s' => cases result <;> rfl

theorem outcome_pure (peer : Request → σ → Option Response × σ) (a : α) (s : σ) :
    outcome peer (pure a) s = (.ok a, s) := rfl

/-- What does not depend on the peer. -/
def ofExcept (e : Except Error α) : Conversation α := ExceptT.mk (.done e)

/-- Sends a request, if its URL is one to which requests can be sent. -/
def send (r : Request) : Conversation Response :=
  if r.url.isHttp then
    ExceptT.mk (.send r fun
      | some response => .done (.ok response)
      | none => .done (.error (.http .request)))
  else throw (.http .builder)

/-- The URL of an address. -/
def urlOf (address : String) : Conversation Url :=
  match Url.parse address with
  | .ok u => pure u
  | .error _ => throw (.http .builder)

/-- Sends a request and sees to it that its response tells of success. -/
def succeed (r : Request) : Conversation Response := do
  let response ← send r
  if isSuccess response.status then return response
  else throw (.rejected r.url.text (statusText response.status) (Text.trim response.body))

/-- The value that a response holds. -/
def value (read : Form → Option α) (response : Response) : Conversation α :=
  match (Json.form? response.body).bind read with
  | some a => pure a
  | none => throw (.http .decode)

end Conversation

/-- An address without the slashes at its end. -/
def baseOf (address : String) : String :=
  String.ofList (address.toList.reverse.dropWhile (· == '/')).reverse

end AlertSync.Http
