import GatedPipeline.Shell.Program.Basic

namespace GatedPipeline.Shell

namespace Redirecting

section

variable (substitute : Substitution → Act String)

def refuse (message : String) : Act Bool := do
  Act.fault message (if ← Act.isStrict then 2 else 1)
  return false

def reason (isStrict creates : Bool) (path : String) (f : FileFault) : String :=
  if isStrict then
    (if creates then "cannot create " else "cannot open ") ++ path ++ ": " ++
      (match f with
        | .missing => if creates then "Directory nonexistent" else "No such file"
        | .present => "File exists"
        | f => f.reason)
  else path ++ ": " ++ f.reason

def openFile (kind : RedirectionKind) (path : String) : Act (Except String Nat) := do
  let s ← get
  let reads := kind == .input || kind == .inputOutput
  let writes := kind != .input
  let full := Path.resolve s.directory path
  let opening (target : Target) : Opening :=
    ⟨target, 0, kind == .append || kind == .appendAndError, reads, writes⟩
  let opened (t : Target) : Act (Except String Nat) := do
    return .ok (← Act.newOpening (opening t))
  if path.isEmpty then return .error (reason s.isStrict writes path .missing)
  else if full = "/dev/null" then opened .nothing
  else if full = "/dev/zero" || full = "/dev/full" then opened (.zeros (full = "/dev/full"))
  else
    match Program.descriptor? full with
    | some n =>
      match s.descriptors.lookup n with
      | some o => return .ok o
      | none => return .error (reason s.isStrict writes path .missing)
    | none =>
      let fail (f : FileFault) : Act (Except String Nat) :=
        return .error (reason s.isStrict writes path f)
      match s.world.files.locate s.directory path with
      | .error f => fail f
      | .ok place =>
        match s.world.files.entry? place with
        | some .directory =>
          if writes then fail .isDirectory else opened (.directory place)
        | some (.file ..) =>
          if path.endsWith "/" then fail .notDirectory
          else if s.hasOption "noclobber" && (kind == .output || kind == .outputAndError) then
            return .error (if s.isStrict then "cannot create " ++ path ++ ": File exists"
              else path ++ ": cannot overwrite existing file")
          else
            let empties := kind == .output || kind == .clobber || kind == .outputAndError
            if empties then
              modify fun s => { s with world := { s.world with
                files := s.world.files.write place "" } }
            opened (.file place)
        | none =>
          if kind == .input then fail .missing
          else if !s.world.files.isDirectory (Path.parent place) then fail .missing
          else if path.endsWith "/" then fail .isDirectory
          else
            modify fun s => { s with world := { s.world with
              files := s.world.files.write place "" } }
            opened (.file place)

/-- The lowest number from 10 on that is not in use. -/
def freeDescriptor (s : State) : Nat :=
  (((List.range 1000).map (· + 10)).find? fun n =>
    (s.descriptors.lookup n).isNone && !s.reserved.contains n).getD 10

/-- Sets a number aside for every descriptor that is open and is to be set. -/
def reserve (touched : List Nat) (s : State) : State :=
  touched.foldl (fun s n =>
    if (s.descriptors.lookup n).isSome then
      { s with reserved := freeDescriptor s :: s.reserved }
    else s) s

/-- The one text that is meant by the target of a redirection. -/
def target? (r : Redirection) : Act (Option String) := do
  if ← Act.isStrict then return some (← Expansion.text substitute r.target)
  else
    match ← Expansion.fields substitute [r.target] with
    | [t] => return some t
    | _ =>
      let _ ← refuse (r.target ++ ": ambiguous redirect")
      return none

/-- The number of a descriptor that a variable tells; none if it has no value. -/
def told? (reference : String) : Act (Option (Option Nat)) := do
  match Parameter.named? false reference.toList with
  | some (name, key, []) =>
    let key ← key.mapM (Expansion.text substitute)
    return (← Assigning.element? (evaluateArithmetic "") name key).map String.toNat?
  | _ => return none

def tell (reference : String) (n : Nat) : Act Bool := do
  match Parameter.named? false reference.toList with
  | some (name, key, []) =>
    let key ← key.mapM (Expansion.text substitute)
    Assigning.assign? (evaluateArithmetic "") name key false (toString n)
  | _ => return false

/-- The descriptor that is set where none is named. -/
def usual : RedirectionKind → Nat
  | .input => 0
  | .inputOutput => 0
  | .copyInput => 0
  | .document _ => 0
  | .text => 0
  | _ => 1

/-- Carries out one redirection; tells whether that is possible. -/
def one (r : Redirection) : Act Bool := do
  let s ← get
  let set : Nat :=
    match r.descriptor with
    | .number n => n
    | _ => usual r.kind
  let lead (opening : Nat) : Act Bool := do
    match r.descriptor with
    | .named reference =>
      let n := freeDescriptor (← get)
      if ← tell substitute reference n then
        Act.direct n opening
        return true
      else refuse (reference ++ ": cannot assign fd to variable")
    | _ =>
      Act.direct set opening
      return true
  let file (kind : RedirectionKind) (path : String) (andErrors : Bool) : Act Bool := do
    match ← openFile kind path with
    | .error e => refuse e
    | .ok opening =>
      let isDone ← lead opening
      if andErrors then Act.direct 2 opening
      return isDone
  let copy (text : String) (isOutput : Bool) : Act Bool := do
    if text = "-" then
      match r.descriptor with
      | .named reference =>
        match ← told? substitute reference with
        | some n =>
          n.forM Act.shut
          return true
        | none => refuse (reference ++ ": ambiguous redirect")
      | _ =>
        Act.shut set
        return true
    else
      let moves := text.endsWith "-" && text.length > 1
      let digits := if moves then String.ofList text.toList.dropLast else text
      match Builtin.plainNumber? digits with
      | some n =>
        match s.descriptors.lookup n with
        | some opening =>
          let done ← lead opening
          if moves then Act.shut n
          return done
        | none =>
          /- A guess at what is meant by the one that is not there. -/
          let written := if moves && r.target.endsWith "-"
            then String.ofList r.target.toList.dropLast else r.target
          let shown :=
            if s.isStrict || written.toList.all Char.isDigit then digits
            else if !moves && set = usual r.kind then r.target
            else toString set
          refuse (shown ++ ": Bad file descriptor")
      | none =>
        if isOutput && (r.descriptor == .usual || r.descriptor == .number 1) && !s.isStrict then
          file .outputAndError text true
        else if s.isStrict then
          Act.fault "Syntax error: Bad fd number" 2
          throw .leaving
        else
          let isRun := (r.target.splitOn "$(").length > 1 || r.target.contains '\x60'
          refuse ((if isRun then r.target else text) ++ ": ambiguous redirect")
  match r.kind with
  | .document n =>
    match s.documents[n]? with
    | none => return true
    | some d =>
      let text ← if d.expands then Expansion.document substitute d.body else pure d.body
      lead (← Act.openText text)
  | .text =>
    let text ← Expansion.text substitute r.target
    lead (← Act.openText (text ++ "\n"))
  | kind =>
    match ← target? substitute r with
    | none => return false
    | some path =>
      match kind with
      | .copyInput => copy path false
      | .copyOutput => copy path true
      | .outputAndError => file kind path true
      | .appendAndError => file kind path true
      | kind => file kind path false

/-- Carries out redirections, up to the first one that is not possible. -/
def all : List Redirection → Act Bool
  | [] => return true
  | r :: rs => do if ← one substitute r then all rs else return false

/-- The descriptors that stay as they are set for one command: those that variables tell. -/
def lasting (rs : List Redirection) : Act (List Nat) := do
  let numbers ← rs.mapM fun r => do
    match r.descriptor with
    | .named reference => return (← told? substitute reference).join
    | _ => return none
  return numbers.filterMap id

def touched (rs : List Redirection) : List Nat :=
  rs.flatMap fun r =>
    let isBoth := r.kind == .outputAndError || r.kind == .appendAndError || r.kind == .copyOutput
    match r.descriptor with
    | .number n => [n]
    | .usual => if isBoth then [1, 2] else [usual r.kind]
    | .named _ => []

/-- The descriptors after a command for which some have been set. Those are again what they were,
apart from some that stay. -/
def restored (s : State) (before : List (Nat × Nat)) (touched lasting : List Nat) :
    List (Nat × Nat) :=
  let isBack (n : Nat) : Bool := touched.contains n && !lasting.contains n
  (before.filter fun d => isBack d.1) ++ s.descriptors.filter fun d => !isBack d.1

end

end Redirecting

end GatedPipeline.Shell
