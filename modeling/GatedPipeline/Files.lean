import GatedPipeline.Bindings
import GatedPipeline.Path

namespace GatedPipeline

inductive Entry where
  | directory
  | file (content : String) (executable : Bool)
deriving DecidableEq, Repr

inductive FileFault where
  | missing
  | denied
  | present
  | notDirectory
  | isDirectory
  | notEmpty
  | nameTooLong
deriving DecidableEq, Repr

namespace FileFault

def reason : FileFault → String
  | .missing => "No such file or directory"
  | .denied => "Permission denied"
  | .present => "File exists"
  | .notDirectory => "Not a directory"
  | .isDirectory => "Is a directory"
  | .notEmpty => "Directory not empty"
  | .nameTooLong => "File name too long"

def number : FileFault → Nat
  | .missing => 2
  | .denied => 13
  | .present => 17
  | .notDirectory => 20
  | .isDirectory => 21
  | .notEmpty => 39
  | .nameTooLong => 36

def message (f : FileFault) : String :=
  f.reason ++ " (os error " ++ toString f.number ++ ")"

end FileFault

/-- The entries by their paths. With `inBytes`, each character of a path and of a content stands for
one byte. -/
structure Files where
  inBytes : Bool
  entries : Bindings Entry
deriving Repr

namespace Files

def empty : Files := ⟨false, []⟩

def withEntries (f : Files) (entries : Bindings Entry) : Files := { f with entries := entries }

def sizeOf (f : Files) (s : String) : Nat := if f.inBytes then s.length else s.utf8ByteSize

def set (f : Files) (path : String) (e : Entry) : Files :=
  f.withEntries (f.entries.insert path e)

/-- The root is always there. -/
def entry? (f : Files) (path : String) : Option Entry :=
  if path = "/" then some .directory else f.entries.get? path

def isDirectory (f : Files) (path : String) : Bool := f.entry? path == some .directory

def content? (f : Files) (path : String) : Option String :=
  match f.entry? path with
  | some (.file content _) => some content
  | _ => none

def longestName : Nat := 255

def longestPath : Nat := 4095

/-- Follows the steps of a path one after another, each of them from a directory that has to be
there. The end need not be there. -/
def walk (f : Files) : List String → List String → Except FileFault (List String)
  | names, [] => .ok names
  | names, step :: steps =>
    match f.entry? (Path.ofNames names) with
    | none => .error .missing
    | some (.file ..) => .error .notDirectory
    | some .directory =>
      if longestName < f.sizeOf step then .error .nameTooLong
      else walk f (Path.follow names step) steps

/-- The absolute path to which a path leads from a directory. -/
def locate (f : Files) (directory path : String) : Except FileFault String :=
  if path.isEmpty then .error .missing
  else if longestPath < f.sizeOf path then .error .nameTooLong
  else
    (f.walk (if Path.isAbsolute path then [] else Path.names directory)
      (Text.splitAt '/' path)).map Path.ofNames

def find (f : Files) (directory path : String) : Except FileFault (String × Entry) := do
  let place ← f.locate directory path
  match f.entry? place with
  | some e => .ok (place, e)
  | none => .error .missing

def read (f : Files) (directory path : String) : Except FileFault String := do
  match (← f.find directory path).2 with
  | .file content _ => .ok content
  | .directory => .error .isDirectory

/-- Makes the directories with the given names, the innermost first. -/
def makeDirectories (f : Files) : List String → Files
  | [] => f
  | name :: outer =>
    let g := makeDirectories f outer
    g.set (Path.ofNames (name :: outer)) .directory

def makeDirectory (f : Files) (path : String) : Files := f.makeDirectories (Path.names path)

/-- Puts an entry at an absolute path, making the directories above it where they are missing. -/
def put (f : Files) (path : String) (e : Entry) : Files :=
  (f.makeDirectories ((Path.names path).drop 1)).set path e

/-- Sets the content of a file; one that is there keeps its permissions. -/
def write (f : Files) (path content : String) : Files :=
  match f.entry? path with
  | some (.file _ executable) => f.set path (.file content executable)
  | _ => f.put path (.file content false)

def remove (f : Files) (path : String) : Files :=
  f.withEntries (f.entries.filter fun e => e.1 ≠ path && !e.1.startsWith (path ++ "/"))

/-- Makes the directories on a path that are missing. A file in the way is an error. -/
def ensureDirectories : Files → List String → List String → Except FileFault Files
  | f, _, [] => .ok f
  | f, names, step :: steps =>
    let next := Path.follow names step
    match f.entry? (Path.ofNames next) with
    | some .directory => ensureDirectories f next steps
    | some (.file ..) => .error (if steps.isEmpty then .present else .notDirectory)
    | none =>
      if longestName < f.sizeOf step then .error .nameTooLong
      else ensureDirectories (f.set (Path.ofNames next) .directory) next steps

/-- Writes a file at an absolute path, with all directories above it. -/
def save (f : Files) (path content : String) : Except FileFault Files := do
  let g ← f.ensureDirectories [] ((Text.splitAt '/' path).dropLast.filter (!·.isEmpty))
  let place ← g.locate "/" path
  if g.isDirectory place then .error .isDirectory else .ok (g.write place content)

def list (f : Files) (directory : String) : List String :=
  f.entries.filterMap fun e =>
    match Path.names e.1 with
    | name :: outer => if Path.ofNames outer = directory then some name else none
    | [] => none

end Files

end GatedPipeline
