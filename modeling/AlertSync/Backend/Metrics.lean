import AlertSync.Http

/-!
# The metrics backend

It evaluates the alerting rules over what it scrapes. All that is asked of it is to read its files
again.
-/

namespace AlertSync.MetricsBackend

open Http

/-- Has the metrics backend read its files again. -/
def reload (base : String) : Conversation Unit := do
  let url ← Conversation.urlOf (baseOf base ++ "/-/reload")
  let _ ← Conversation.succeed (.bare .post url)

end AlertSync.MetricsBackend
