import GatedPipeline.Shell.Program.Basic

namespace GatedPipeline.Shell.Program

def setFiles (f : Files → Files) : Act Unit :=
  modify fun s => { s with world := { s.world with files := f s.world.files } }

/-- Why no entry can be made at a path. -/
def makingFault? (s : State) (path : String) : Option FileFault :=
  match s.world.files.locate s.directory path with
  | .error f => some f
  | .ok place =>
    if (s.world.files.entry? place).isSome then some .present
    else if s.world.files.isDirectory (Path.parent place) then none
    else some .missing

def missingOperand (name : String) : Act Unit := refuse name "missing operand" 1

def mkdir (args : List String) : Act Unit := do
  withOptions ⟨"mkdir", "pvm:", [("parents", 'p'), ("verbose", 'v'), ("mode", 'm')], 1⟩ args
    fun o => do
      if o.rest.isEmpty then missingOperand "mkdir"
      else
        o.rest.forM fun path => do
          let s ← get
          let full := Path.resolve s.directory path
          let refused (f : FileFault) : Act Unit := do
            fail "mkdir" ("cannot create directory " ++ (← shownArgument path) ++ ": " ++ f.reason) 1
          let made : Act Unit := do
            if o.has 'v' then say ("mkdir: created directory " ++ (← shownPath path) ++ "\n")
          if o.has 'p' then
            let parts := (Text.splitAt '/' full).filter (!·.isEmpty)
            match s.world.files.ensureDirectories [] parts with
            | .ok f =>
              setFiles fun _ => f
              if !s.world.files.isDirectory full then made
            | .error f => refused f
          else
            match makingFault? s path with
            | some f => refused f
            | none =>
              setFiles (·.makeDirectory full)
              made

def rmdir (args : List String) : Act Unit := do
  withOptions ⟨"rmdir", "pv", [("parents", 'p'), ("verbose", 'v')], 1⟩ args fun o => do
    if o.rest.isEmpty then missingOperand "rmdir"
    else
      o.rest.forM fun path => do
        let s ← get
        let refused (f : FileFault) : Act Unit := do
          fail "rmdir" ("failed to remove " ++ (← shownPath path) ++ ": " ++ f.reason) 1
        match s.world.files.find s.directory path with
        | .error f => refused f
        | .ok (_, .file ..) => refused .notDirectory
        | .ok (place, .directory) =>
          if (s.world.files.list place).isEmpty then setFiles (·.remove place)
          else refused .notEmpty

def rm (args : List String) : Act Unit := do
  let words := [("recursive", 'r'), ("force", 'f'), ("verbose", 'v'), ("dir", 'd')]
  withOptions ⟨"rm", "rRfvidI", words, 1⟩ args fun o => do
    let isDeep := o.has 'r' || o.has 'R'
    if o.rest.isEmpty then
      if !o.has 'f' then missingOperand "rm"
    else
      o.rest.forM fun path => do
        let s ← get
        let refused (why : String) : Act Unit := do
          fail "rm" ("cannot remove " ++ (← shownPath path) ++ ": " ++ why) 1
        match s.world.files.find s.directory path with
        | .error f =>
          if !o.has 'f' || f == .isDirectory then refused f.reason
        | .ok (place, e) =>
          if e == .directory && !isDeep then
            if o.has 'd' && (s.world.files.list place).isEmpty then setFiles (·.remove place)
            else refused FileFault.isDirectory.reason
          else if isDeep &&
              (path = "." || path = ".." || path.endsWith "/." || path.endsWith "/..") then
            fail "rm" ("refusing to remove '.' or '..' directory: skipping " ++
              (← shownPath path)) 1
          else
            setFiles (·.remove place)
            if o.has 'v' then
              let kind := if e == .directory then "directory " else ""
              say ("removed " ++ kind ++ (← shownPath path) ++ "\n")

def touch (args : List String) : Act Unit := do
  let words := [("no-create", 'c'), ("date", 'd'), ("reference", 'r')]
  withOptions ⟨"touch", "acmd:r:t:", words, 1⟩ args
    fun o => do
      if o.rest.isEmpty then refuse "touch" "missing file operand" 1
      else
        o.rest.forM fun path => do
          let s ← get
          let refused (f : FileFault) : Act Unit := do
            fail "touch" ("cannot touch " ++ (← shownPath path) ++ ": " ++ f.reason) 1
          match makingFault? s path with
          | some .present => return ()
          | some f => refused f
          | none =>
            if path.endsWith "/" then
              refused .missing
            else if !o.has 'c' then setFiles (·.write (Path.resolve s.directory path) "")

def drawnNames (length seed : Nat) : String :=
  let known := "abcdefghijklmnopqrstuvwxyzABCDEFGHIJKLMNOPQRSTUVWXYZ0123456789".toList
  let next (n : Nat) : Nat := (n * 1103515245 + 12345) % Nat.pow 2 31
  let rec go : Nat → Nat → List Char
    | 0, _ => []
    | n + 1, seed => known.getD (seed / 65536 % known.length) 'a' :: go n (next seed)
  String.ofList (go length (next seed))

/-- Makes a file, or a directory, whose name ends in letters that are drawn. -/
def mktemp (args : List String) : Act Unit := do
  let words := [("directory", 'd'), ("dry-run", 'u'), ("quiet", 'q'), ("tmpdir", 'p')]
  withOptions ⟨"mktemp", "duqp:t", words, 1⟩ args fun o => do
    let s ← get
    let usual := ((s.value? "TMPDIR").filter (!·.isEmpty)).getD "/tmp"
    let written := o.rest.headD "tmp.XXXXXXXXXX"
    let cs := written.toList.reverse
    let after := cs.takeWhile (· != 'X')
    let count := ((cs.drop after.length).takeWhile (· == 'X')).length
    if 2 ≤ o.rest.length then refuse "mktemp" "too many templates" 1
    else if count < 3 then
      fail "mktemp" ("too few X's in template " ++ (← shownArgument written)) 1
    else
      let front := String.ofList (cs.drop (after.length + count)).reverse
      let name := front ++ drawnNames count s.random ++ String.ofList after.reverse
      let path :=
        match o.argument? 'p' with
        | some d => d ++ "/" ++ name
        | none => if o.rest.isEmpty || o.has 't' then usual ++ "/" ++ name else name
      let full := Path.resolve s.directory path
      match makingFault? s path with
      | some f =>
        fail "mktemp" ("failed to create " ++ (if o.has 'd' then "directory" else "file") ++
          " via template " ++ (← shownArgument path) ++ ": " ++ f.reason) 1
      | none =>
        modify fun s => { s with random := (s.random * 1103515245 + 12345) % Nat.pow 2 31 }
        if !o.has 'u' then
          setFiles fun f => if o.has 'd' then f.makeDirectory full else f.write full ""
        say (path ++ "\n")

def copied (f : Files) (source target : String) : Files :=
  f.withEntries (f.entries.foldl (fun m e =>
    if e.1 == source || e.1.startsWith (source ++ "/") then
      m.insert (target ++ String.ofList (e.1.toList.drop source.length)) e.2
    else m) f.entries)

def baseName (path : String) : String := (Path.names path).headD "/"

def transfer (name : String) (moves : Bool) (o : Builtin.Options) : Act Unit := do
  let s ← get
  match o.rest with
  | [] => refuse name "missing file operand" 1
  | [a] => refuse name ("missing destination file operand after " ++ (← shownPath a)) 1
  | operands =>
    let target := operands.getLastD ""
    let sources := operands.dropLast
    let intoDirectory := Testing.kind? s target == some .directory
    if sources.length > 1 && !intoDirectory then
      let why :=
        if (Testing.kind? s target).isSome then FileFault.notDirectory else FileFault.missing
      fail name ("target " ++ (← shownPath target) ++ ": " ++ why.reason) 1
    else
      sources.forM fun source => do
        let s ← get
        let target :=
          if intoDirectory then
            target ++ (if target.endsWith "/" then "" else "/") ++ baseName source
          else target
        let goal := Path.resolve s.directory target
        let shown ← shownPath source
        let shownGoal ← shownPath target
        match s.world.files.find s.directory source with
        | .error f => fail name ("cannot stat " ++ shown ++ ": " ++ f.reason) 1
        | .ok (place, e) =>
          if place == goal then
            fail name (shown ++ " and " ++ shownGoal ++ " are the same file") 1
          else if e == .directory && !moves && !(o.has 'r' || o.has 'R' || o.has 'a') then
            fail name ("-r not specified; omitting directory " ++ shown) 1
          else if !s.world.files.isDirectory (Path.parent goal) then
            if moves then
              fail name ("cannot move " ++ shown ++ " to " ++ shownGoal ++
                ": No such file or directory") 1
            else
              let kind := if e == .directory then "directory" else "regular file"
              fail name ("cannot create " ++ kind ++ " " ++ shownGoal ++
                ": No such file or directory") 1
          else if e == .directory && (goal ++ "/").startsWith (place ++ "/") then
            let what :=
              if moves then "move " ++ shown ++ " to a subdirectory of itself"
              else "copy a directory, " ++ shown ++ ", into itself"
            fail name ("cannot " ++ what ++ ", " ++ shownGoal) 1
          else if o.has 'n' && (s.world.files.entry? goal).isSome then return ()
          else
            setFiles fun f =>
              let g := copied f place goal
              if moves then g.remove place else g
            if o.has 'v' then
              let front := if moves then "renamed " else ""
              say (front ++ shown ++ " -> " ++ shownGoal ++ "\n")

def cp (args : List String) : Act Unit :=
  withOptions ⟨"cp", "rRafvpnuiTdL", [("recursive", 'r'), ("archive", 'a'), ("verbose", 'v'),
    ("force", 'f'), ("no-clobber", 'n')], 1⟩ args (transfer "cp" false)

def mv (args : List String) : Act Unit :=
  withOptions ⟨"mv", "fvnuiT", [("force", 'f'), ("verbose", 'v'), ("no-clobber", 'n')], 1⟩ args
    (transfer "mv" true)

/-- A mode lets files be run; none if it says nothing about that. -/
def modeRuns? (mode : String) : Option Bool :=
  if mode.toList.all isOctal && !mode.isEmpty then some (octalNumber mode.toList / 64 % 2 == 1)
  else
    (Text.splitAt ',' mode).foldl (fun r clause =>
      let cs := clause.toList.dropWhile "ugoa".toList.contains
      match cs with
      | '+' :: ps => if ps.contains 'x' || ps.contains 'X' then some true else r
      | '-' :: ps => if ps.contains 'x' then some false else r
      | '=' :: ps => some (ps.contains 'x')
      | _ => r) none

def chmod (args : List String) : Act Unit := do
  let isMode (a : String) : Bool := a.startsWith "-" && a.length > 1 &&
    (a.toList.drop 1).all "rwxXst".toList.contains
  let modes := args.filter isMode
  withOptions ⟨"chmod", "Rvcf", [("recursive", 'R'), ("verbose", 'v')], 1⟩
    (args.filter (!isMode ·)) fun o => do
      match modes ++ o.rest with
      | [] => missingOperand "chmod"
      | [a] => refuse "chmod" ("missing operand after " ++ (← shownArgument a)) 1
      | mode :: paths =>
        paths.forM fun path => do
          let s ← get
          match s.world.files.find s.directory path with
          | .error f => fail "chmod" ("cannot access " ++ (← shownPath path) ++ ": " ++ f.reason) 1
          | .ok (place, .file content old) =>
            setFiles fun f => f.put place (.file content ((modeRuns? mode).getD old))
          | .ok _ => return ()

/-- The last name of a path, without an ending. -/
def basename (args : List String) : Act Unit := do
  let words := [("multiple", 'a'), ("suffix", 's'), ("zero", 'z')]
  withOptions ⟨"basename", "as:z", words, 1⟩ args fun o => do
    let last (path : String) : String :=
      let parts := (Text.splitAt '/' path).filter (!·.isEmpty)
      parts.getLastD (if path.isEmpty then "" else "/")
    let cut (ending path : String) : String :=
      let name := last path
      if !ending.isEmpty && name.endsWith ending && name != ending then
        String.ofList (name.toList.take (name.length - ending.length))
      else name
    match o.rest with
    | [] => missingOperand "basename"
    | path :: rest =>
      if o.has 'a' || o.has 's' then
        say (unlines (o.rest.map (cut ((o.argument? 's').getD ""))))
      else
        match rest with
        | [] => say (last path ++ "\n")
        | [ending] => say (cut ending path ++ "\n")
        | _ :: extra :: _ => refuse "basename" ("extra operand " ++ (← shownArgument extra)) 1

def dirname (args : List String) : Act Unit := do
  withOptions ⟨"dirname", "z", [("zero", 'z')], 1⟩ args fun o => do
    let front (path : String) : String :=
      let cs := path.toList.reverse.dropWhile (· == '/')
      let rest := (cs.dropWhile (· != '/')).dropWhile (· == '/')
      if cs.isEmpty then (if path.isEmpty then "." else "/")
      else if rest.isEmpty then (if path.startsWith "/" then "/" else ".")
      else String.ofList rest.reverse
    if o.rest.isEmpty then missingOperand "dirname"
    else say (unlines (o.rest.map front))

/-- The path without detours to where a path leads. -/
def realpath (name : String) (args : List String) : Act Unit := do
  withOptions ⟨name, "efmnqsz", [], 1⟩ args fun o => do
    if o.rest.isEmpty then missingOperand name
    else
      o.rest.forM fun path => do
        let s ← get
        let full := Path.resolve s.directory path
        if o.has 'm' || (s.world.files.entry? full).isSome ||
            (!o.has 'e' && s.world.files.isDirectory (Path.parent full)) then
          if name = "realpath" || o.has 'f' || o.has 'e' || o.has 'm' then say (full ++ "\n")
          else Act.setStatus 1
        else if name = "realpath" then
          fail name ((← shownOperand path) ++ ": No such file or directory") 1
        else Act.setStatus 1

end GatedPipeline.Shell.Program
