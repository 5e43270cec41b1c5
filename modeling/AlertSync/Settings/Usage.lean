import AlertSync.Settings.CommandLine

/-!
# What is told about the command line

The help text lists every setting with its names, and a refusal tells which argument or variable
was at fault.
-/

namespace AlertSync

/-- The name of the program. -/
def programName : String := "monitoring-manager"

/-- The version of the program. -/
def programVersion : String := "0.1.0"

/-- A setting as it is named to a reader. -/
def Setting.shown (x : Setting) : String :=
  let long := "--" ++ x.long
  let named := match x.letter? with
    | some c => String.ofList ['-', c] ++ ", " ++ long
    | none => long
  if x.isFlag then named else named ++ " <" ++ x.variableName ++ ">"

/-- The lines of help for a setting. -/
def Setting.help (x : Setting) : String :=
  let purpose := if x.purpose == "" then "" else x.purpose ++ " "
  "  " ++ x.shown ++ "\n          " ++ purpose ++ "[env: " ++ x.variableName ++ "]\n"

/-- The help text. -/
def helpText : String :=
  "A monitoring manager for Rancher\n\nUsage: " ++ programName ++ " [OPTIONS]\n\nOptions:\n" ++
    String.join (Setting.all.map Setting.help) ++
    "  -h, --help\n          Print help\n  -V, --version\n          Print version\n"

/-- The wording of a refusal. -/
def Refusal.message : Refusal → String
  | unknownArgument a => "unexpected argument '" ++ a ++ "' found"
  | missingValue x => "a value is required for '" ++ x.shown ++ "' but none was supplied"
  | impossibleValue x value | notNumber x value =>
    "invalid value '" ++ value ++ "' for '" ++ x.shown ++ "'"
  | repeated x => "the argument '" ++ x.shown ++ "' cannot be used multiple times"
  | needlessValue name value =>
    "unexpected value '" ++ value ++ "' for '" ++ name ++ "' found; no more were expected"
  | helpAsked => helpText
  | versionAsked => programName ++ " " ++ programVersion

/-- Whether a refusal is an answer that was asked for. -/
def Refusal.isAnswer : Refusal → Bool
  | helpAsked | versionAsked => true
  | _ => false

end AlertSync
