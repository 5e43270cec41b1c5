/-!
# What a synchronization asks for
-/

namespace AlertSync

/-- What a synchronization that went well asks for. -/
inductive Outcome
  /-- A file was written that its backend has to read again. -/
  | reload
  /-- Nothing. -/
  | done
  deriving DecidableEq, Repr

/-- The word for what a synchronization asks for. -/
def Outcome.name : Outcome → String
  | reload => "reload"
  | done => "done"

end AlertSync
