import AlertSync.Program

/-!
# Generated files

A generated file is replaced whole: its contents are written beside it and moved over it, so that
whoever reads it finds the old contents or the new. Where that fails, what was written beside it is
removed again.
-/

namespace AlertSync.Artifact

/-- Replaces the contents of a file, telling how that ended. -/
def replaceFile (path : FilePath) (text : String) : Program (Except Error Unit) := do
  let written ← (Program.ask (.writeFile path.temporary text) : Program (Except Error Unit))
  let replaced ← match written with
    | .ok () => (Program.ask (.moveFile path.temporary path) : Program (Except Error Unit))
    | .error e => pure (.error e)
  match replaced with
  | .ok () => pure (.ok ())
  | .error e =>
    let _ ← Program.ask (.removeFile path.temporary)
    pure (.error e)

/-- Replaces the contents of a file. -/
def write (path : FilePath) (text : String) : Operation Unit := .ofProgram (replaceFile path text)

end AlertSync.Artifact
