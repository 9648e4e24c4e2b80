import GatedPipeline.Shell.Testing

namespace GatedPipeline.Shell.State

def searchPath (s : State) : List String :=
  match s.value? "PATH" with
  | some p => Text.splitAt ':' p
  | none => [""]

def isRunnable (s : State) (path : String) : Bool :=
  match Testing.kind? s path with
  | some .program => true
  | some (.file _ isExecutable) => isExecutable
  | _ => false

/-- All places in the directories where a program may be. -/
def candidates (s : State) (name : String) : List String :=
  s.searchPath.map fun d =>
    if d.isEmpty then (if s.isStrict then name else "./" ++ name)
    else if d.endsWith "/" then d ++ name else d ++ "/" ++ name

/-- All places in the directories where a program is found. -/
def places (s : State) (name : String) : List String :=
  (if name.contains '/' then [name] else s.candidates name).filter s.isRunnable

/-- The place of something that has the name of a program but cannot be run. -/
def blocked? (s : State) (name : String) : Option String :=
  (s.candidates name).find? fun path =>
    match Testing.kind? s path with
    | some .directory => s.isStrict
    | k => k.isSome

def place? (s : State) (name : String) : Option String :=
  match (if name.contains '/' then none else s.found.get? name) with
  | some f => if s.isRunnable f.1 then some f.1 else (s.places name).head?
  | none => (s.places name).head?

/-- Keeps in mind where a program has been found, and that it has been run. -/
def noteFound (s : State) (name path : String) (runs : Nat) : State :=
  if name.contains '/' then s
  else
    let hits := ((s.found.get? name).map (·.2)).getD 0
    { s with found := s.found.insert name (path, hits + runs) }

end GatedPipeline.Shell.State
