import AlertSync.Error

/-!
# Files

A file system is a tree of directories and files of text; the root is always there, and so are the
directories around it. What a call needs must be there: a file is written only into a directory, and
no file takes the place of a directory. Moving a file puts it in place of another in one step.

A path is gone step by step, each from a directory. Two dots lead back, and out of the root; a name
has at most 255 bytes.
-/

namespace AlertSync

/-- A path from the root: the names on the way, outermost first. An empty name at the end says that
the path is one of a directory. -/
abbrev FilePath := List String

namespace FilePath

/-- The name that leads back. -/
def back : String := ".."

/-- The path that a text names. Empty names and dots stand for no step; a slash at the head leads
out of the root. -/
def ofText (s : String) : FilePath :=
  let isStep (n : String) : Bool := n != "" && n != "."
  let names := s.splitOn "/"
  let steps := (if s.startsWith "/" then [back] else []) ++ names.filter isStep
  steps ++ if !steps.isEmpty && !names.getLast?.any isStep then [""] else []

/-- The text of a path. -/
def text (p : FilePath) : String := String.intercalate "/" p

/-- The path beside a file under which its next contents are prepared. -/
def temporary (p : FilePath) : FilePath :=
  let steps := p.filter (· != "")
  match steps.getLast? with
  | none => [".tmp"]
  | some name =>
    if name = back then steps ++ [".tmp"] else steps.dropLast ++ [name ++ ".tmp"]

/-- The path of the directory around that at a path. -/
def outer (p : FilePath) : FilePath := if p.all (· == back) then p ++ [back] else p.dropLast

/-- Whether there can be anything under a name. -/
def isName (n : String) : Bool := n.utf8ByteSize ≤ 255 && !n.toList.contains '\x00'

end FilePath

/-- What is at a path. -/
inductive FileNode
  | file (text : String)
  | directory
  deriving DecidableEq, Repr

/-- What is where, below the root. -/
structure FileSystem where
  nodes : List (FilePath × FileNode)
  deriving DecidableEq, Repr

namespace FileSystem

/-- Nothing but the root. -/
def empty : FileSystem := ⟨[]⟩

/-- What is at a path that leads straight there. -/
def find? (fs : FileSystem) (p : FilePath) : Option FileNode :=
  if p.all (· == FilePath.back) then some .directory else fs.nodes.lookup p

/-- The file system with something at a path, in place of what was there. -/
def put (fs : FileSystem) (p : FilePath) (n : FileNode) : FileSystem :=
  ⟨(p, n) :: fs.nodes.filter fun e => e.1 != p⟩

/-- The file system with nothing at a path. -/
def drop (fs : FileSystem) (p : FilePath) : FileSystem := ⟨fs.nodes.filter fun e => e.1 != p⟩

def isDirectory (fs : FileSystem) (p : FilePath) : Bool := fs.find? p == some .directory

/-- Goes a path from a place: where it leads straight, if each of its steps but the last is from one
directory to another. -/
def go? (fs : FileSystem) (place : FilePath) : FilePath → Option FilePath
  | [] => some place
  | name :: rest =>
    if !fs.isDirectory place || !FilePath.isName name then none
    else if name = "" then go? fs place rest
    else if name = FilePath.back then go? fs place.outer rest
    else go? fs (place ++ [name]) rest

/-- The text of a file. -/
def read (fs : FileSystem) (p : FilePath) : Except Error String :=
  match (fs.go? [] p).bind fs.find? with
  | some (.file text) => .ok text
  | _ => .error .io

/-- Where a file at a path is or would be, if no directory is there. -/
def fileAt? (fs : FileSystem) (p : FilePath) : Option FilePath :=
  (fs.go? [] p).filter fun q => !fs.isDirectory q

/-- Writes a file, in place of one that was there. -/
def write (fs : FileSystem) (p : FilePath) (text : String) : Except Error FileSystem :=
  match fs.fileAt? p with
  | some q => .ok (fs.put q (.file text))
  | none => .error .io

/-- Moves a file, in place of one that was there. -/
def move (fs : FileSystem) (source target : FilePath) : Except Error FileSystem :=
  match fs.fileAt? source, fs.fileAt? target with
  | some s, some t =>
    match fs.find? s with
    | some (.file text) => .ok ((fs.drop s).put t (.file text))
    | _ => .error .io
  | _, _ => .error .io

/-- Removes a file. -/
def remove (fs : FileSystem) (p : FilePath) : Except Error FileSystem :=
  match fs.fileAt? p with
  | some q => if (fs.find? q).isSome then .ok (fs.drop q) else .error .io
  | none => .error .io

/-- Makes a directory and those that lead to it. -/
def makeDirectory (fs : FileSystem) (p : FilePath) : Except Error FileSystem :=
  ((List.range p.length).map fun i => p.take (i + 1)).foldlM (fun fs way =>
    match fs.go? [] way with
    | none => .error .io
    | some q =>
      match fs.find? q with
      | some (.file _) => .error .io
      | some .directory => .ok fs
      | none => .ok (fs.put q .directory)) fs

/-- The names of everything below the root, in their order: files with their text, directories
with a slash at the end. -/
def listing (fs : FileSystem) : List (String × Option String) :=
  ((fs.nodes.filter fun e => e.1.head? != some FilePath.back).map fun e =>
    match e.2 with
    | .file text => (FilePath.text e.1, some text)
    | .directory => (FilePath.text e.1 ++ "/", none)).mergeSort fun a b => decide (a.1 ≤ b.1)

end FileSystem

end AlertSync
