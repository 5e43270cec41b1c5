import AlertSync.Settings.Name

/-!
# The command line

Arguments are read from the left. A long name has two hyphens and takes its value after an equals
sign or from the next argument; letters stand together after one hyphen, and the first that takes a
value takes the others for it, or else the next argument. A value may not begin with a hyphen unless
it is attached, and nothing stands alone.

A value from the next argument is held until more is known: it counts once the next name is read, so
that an argument that is not known is reported before it. What the command line leaves open the
environment tells.
-/

namespace AlertSync.CommandLine

/-- What a name on the command line stands for. -/
inductive Switch
  | setting (x : Setting)
  | help
  | version
  deriving DecidableEq, Repr

/-- The switch with a given long name. -/
def Switch.ofLong? (name : String) : Option Switch :=
  match name with
  | "help" => some .help
  | "version" => some .version
  | _ => (Setting.ofLong? name).map .setting

/-- The switch with a given letter. -/
def Switch.ofLetter? (c : Char) : Option Switch :=
  match c with
  | 'h' => some .help
  | 'V' => some .version
  | _ => (Setting.ofLetter? c).map .setting

/-- The setting that a switch stands for, if it takes a value. -/
def Switch.valued? : Switch → Option Setting
  | .setting x => if x.isFlag then none else some x
  | _ => none

/-- How far the arguments are read. -/
structure Reading where
  settings : Settings
  /-- What is set. -/
  given : List Setting
  /-- The setting that was named last and, once it is read, its value. -/
  pending : Option (Setting × Option String)
  /-- Whether no more names may come. -/
  ended : Bool

namespace Reading

/-- Before the first argument. -/
def start : Reading := ⟨.standard, [], none, false⟩

/-- Sets a setting, which may be done once. -/
def set (r : Reading) (x : Setting) (value : String) : Except Refusal Reading :=
  if r.given.contains x then .error (.repeated x)
  else return { r with settings := ← r.settings.set x value, given := x :: r.given }

/-- Sets the setting that was named last. -/
def settle (r : Reading) : Except Refusal Reading :=
  match r.pending with
  | none => .ok r
  | some (x, none) => .error (.missingValue x)
  | some (x, some value) => { r with pending := none }.set x value

/-- Does what a switch asks for that has no value attached; a setting may have to wait for one. -/
def turn (r : Reading) (s : Switch) : Except Refusal Reading := do
  let r ← r.settle
  match s with
  | .help => .error .helpAsked
  | .version => .error .versionAsked
  | .setting x => if x.isFlag then r.set x "true" else return { r with pending := some (x, none) }

/-- Sets a setting that has its value attached. -/
def attach (r : Reading) (x : Setting) (value : String) : Except Refusal Reading := do
  (← r.settle).set x value

/-- Reads what stands after two hyphens. -/
def long (r : Reading) (body : List Char) : Except Refusal Reading :=
  let name := String.ofList (body.takeWhile (· != '='))
  match Switch.ofLong? name, body.dropWhile (· != '=') with
  | none, _ => .error (.unknownArgument ("--" ++ name))
  | some s, [] => r.turn s
  | some s, _ :: value =>
    match s.valued? with
    | some x => r.attach x (String.ofList value)
    | none => .error (.needlessValue ("--" ++ name) (String.ofList value))

/-- Reads letters, which stand after one hyphen. -/
def letters (r : Reading) : List Char → Except Refusal Reading
  | [] => .ok r
  | c :: rest =>
    match Switch.ofLetter? c with
    | none => .error (.unknownArgument (String.ofList ['-', c]))
    | some s =>
      match s.valued?, rest with
      | none, _ => do (← r.turn s).letters rest
      | some _, [] => r.turn s
      | some x, '=' :: value => r.attach x (String.ofList value)
      | some x, value => r.attach x (String.ofList value)

/-- Reads an argument without a name: the value that is waited for. -/
def word (r : Reading) (argument : String) : Except Refusal Reading :=
  match r.pending with
  | some (x, none) => .ok { r with pending := some (x, some argument) }
  | _ => .error (.unknownArgument argument)

/-- Reads an argument. -/
def argument (r : Reading) (argument : String) : Except Refusal Reading :=
  if r.ended then .error (.unknownArgument argument)
  else
    match argument.toList with
    | ['-', '-'] => .ok { r with ended := true }
    | '-' :: '-' :: body => r.long body
    | '-' :: c :: rest => r.letters (c :: rest)
    | _ => r.word argument

/-- Sets what is not set yet and is told by the environment. -/
def fill (r : Reading) (environment : String → Option String) : Except Refusal Reading :=
  Setting.all.foldlM (fun r x =>
    match environment x.variableName with
    | some value => if r.given.contains x then .ok r else r.set x value
    | none => .ok r) r

end Reading

/-- The settings that the arguments and the environment give. -/
def read (arguments : List String) (environment : String → Option String) :
    Except Refusal Settings := do
  let r ← arguments.foldlM Reading.argument .start
  return (← (← r.settle).fill environment).settings

/-- Where nothing is said, the standard settings hold. -/
theorem read_nil : read [] (fun _ => none) = .ok .standard := rfl

end AlertSync.CommandLine
