import AlertSync.Alert
import AlertSync.Counters
import AlertSync.FileSystem
import AlertSync.Inventory
import AlertSync.LiveAlert
import AlertSync.Store.Objects

/-!
# Programs and their calls

Whatever the manager does to the world it does by calls: to the store, to the backends, to the file
system, to the bus. A `Program` is what is done between them: it is over, or it makes a call and
goes on with the answer. An `Operation` is a program that may fail.

Programs say nothing about what the calls do. `Program.run` answers them from a state, one after
the other; a program can as well be stopped after any call and other programs' calls be answered
in between.
-/

namespace AlertSync

/-- A call to the world. -/
inductive Call
  /-- The stored objects of a kind. -/
  | list (kind : Kind)
  /-- The stored object of a kind and id. -/
  | get (kind : Kind) (id : String)
  | create (kind : Kind) (id payload : String)
  | update (kind : Kind) (id payload : String)
  | delete (kind : Kind) (id : String)
  /-- An id that no object has. -/
  | freshId
  | notify (topic : Topic)
  | count (counter : Counter)
  /-- All that was counted. -/
  | counters
  /-- What the alerting backend reports as firing. -/
  | liveAlerts
  | addSilence (alert : Alert)
  | removeSilence (alert : Alert)
  /-- The alerting backend reads its file again. -/
  | reloadRoutes
  /-- The metrics backend reads its files again. -/
  | reloadMetrics
  /-- The environments of the platform. -/
  | environments
  /-- The hosts of an environment. -/
  | hosts (environment : String)
  | readFile (path : FilePath)
  | writeFile (path : FilePath) (text : String)
  | moveFile (source target : FilePath)
  | removeFile (path : FilePath)
  /-- Some time passes, unless everything is to stop before. -/
  | pause (ms : Nat)
  deriving DecidableEq

/-- What a call is answered with. -/
def Call.Answer : Call → Type
  | list _ => Except Error (List StoredObject)
  | get .. => Except Error (Option StoredObject)
  | create .. | update .. | delete .. => Except Error Unit
  | freshId => String
  | notify _ | count _ => Unit
  | counters => Counters
  | liveAlerts => Except Error (List LiveAlert)
  | addSilence _ | removeSilence _ | reloadRoutes | reloadMetrics => Except Error Unit
  | environments => Except Error (List Environment)
  | hosts _ => Except Error (List Host)
  | readFile _ => Except Error String
  | writeFile .. | moveFile .. | removeFile _ => Except Error Unit
  /- Whether the time has passed. -/
  | pause _ => Bool

/-- A program: over, or a call and how to go on with its answer. -/
inductive Program (α : Type) : Type
  | done (a : α)
  | call (c : Call) (next : c.Answer → Program α)

namespace Program

variable {α β γ σ : Type}

/-- One program after the other. -/
def bind : Program α → (α → Program β) → Program β
  | done a, f => f a
  | call c next, f => call c fun x => bind (next x) f

instance : Monad Program where
  pure := done
  bind := bind

theorem bind_done (p : Program α) : bind p done = p := by
  induction p with
  | done a => rfl
  | call c next ih => exact congrArg (call c) (funext ih)

theorem bind_assoc (p : Program α) (f : α → Program β) (g : β → Program γ) :
    bind (bind p f) g = bind p fun a => bind (f a) g := by
  induction p with
  | done a => rfl
  | call c next ih => exact congrArg (call c) (funext ih)

instance : LawfulMonad Program :=
  LawfulMonad.mk' Program bind_done (fun _ _ => rfl) bind_assoc

/-- A call and nothing else. -/
def ask (c : Call) : Program c.Answer := call c done

/-- Answers the calls of a program from a state, one after the other. -/
def run (answer : (c : Call) → σ → c.Answer × σ) : Program α → σ → α × σ
  | done a, s => (a, s)
  | call c next, s => let (x, s') := answer c s; run answer (next x) s'

/-- One program after the other is answered so. -/
theorem run_bind (answer : (c : Call) → σ → c.Answer × σ) (p : Program α) (f : α → Program β)
    (s : σ) : run answer (bind p f) s = run answer (f (run answer p s).1) (run answer p s).2 := by
  induction p generalizing s with
  | done a => rfl
  | call c next ih => exact ih _ _

end Program

/-- A program that may fail. -/
abbrev Operation (α : Type) := ExceptT Error Program α

namespace Operation

variable {α : Type}

/-- An operation as the program that tells how it ended. -/
def outcome (o : Operation α) : Program (Except Error α) := o

/-- The operation that ends as a program tells. -/
def ofProgram (p : Program (Except Error α)) : Operation α := p

/-- What does not depend on the world. -/
def ofExcept (e : Except Error α) : Operation α := .ofProgram (.done e)

def notify (topic : Topic) : Operation Unit := ExceptT.lift (Program.ask (.notify topic))

def freshId : Operation String := ExceptT.lift (Program.ask .freshId)

end Operation

end AlertSync
