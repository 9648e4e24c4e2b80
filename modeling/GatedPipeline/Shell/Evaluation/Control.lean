import GatedPipeline.Shell.Evaluation.Substituting
import GatedPipeline.Shell.Builtin.Input
import GatedPipeline.Shell.Format
import GatedPipeline.Shell.Search

namespace GatedPipeline.Shell

namespace Evaluation

section

/- Evaluates a command within another one. -/
variable (inner : Command → Act Unit)

/-- The arguments of a command. Those of a declaration may be assignments. -/
def arguments (words : List Word) : Act (List Argument) := do
  let s ← get
  let plain (ws : List Word) : Act (List Argument) := do
    return (← Expansion.fields (substitute inner) ws).map Argument.text
  let isFront (w : Word) : Bool := w = "command" || w = "builtin"
  /- An assignment, whose value is one text. -/
  let assigned (a : Assignment) : Act (List Argument) := do
    match (if s.isStrict then none else Elements.inside? a.value) with
    | some inside =>
      return [.elements a.name a.appends (← Elements.expanded (substitute inner) inside)]
    | none =>
      let value ← Expansion.value (substitute inner) a.value
      let key ← a.subscript.mapM (Expansion.text (substitute inner))
      return [.text (a.name ++ ((key.map fun k => "[" ++ k ++ "]").getD "") ++
        (if a.appends then "+=" else "=") ++ value)]
  match words.dropWhile isFront with
  | name :: args =>
    if Builtin.declarationNames.contains name then
      let front ← plain (words.takeWhile isFront ++ [name])
      let rest ← args.mapM fun w => do
        match Assignment.inDialect? s.isStrict w with
        | some a => assigned a
        | none => plain [w]
      return front ++ rest.flatten
    else plain words
  | [] => plain words

def breakLoops (isBreak : Bool) (args : List String) : Act Unit := do
  let s ← get
  let name := if isBreak then "break" else "continue"
  let go (n : Nat) : Act Unit := do
    Act.setStatus 0
    let n := min n s.loopDepth
    throw (if isBreak then .breaking n else .continuing n)
  if s.isStrict then
    let count ← do
      match args with
      | [] => pure 1
      | a :: _ =>
        match (Builtin.count? a).filter (· != 0) with
        | some n => pure n
        | none =>
          Builtin.refuse name ("Illegal number: " ++ a) 2
          pure 1
    if s.loopDepth = 0 then Act.setStatus 0 else go count
  else if s.loopDepth = 0 then
    if s.hasOption "posix" then Act.setStatus 0
    else Act.fault (name ++ ": only meaningful in a \x60for', \x60while', or \x60until' loop") 0
  else
    match Builtin.operands args with
    | [] => go 1
    | a :: more =>
      match Builtin.number? a, more with
      | none, _ =>
        Act.fault (name ++ ": " ++ a ++ ": numeric argument required") 128
        throw .leaving
      | _, _ :: _ => Builtin.refuseMany name
      | some n, [] =>
        if n ≤ 0 then
          Act.fault (name ++ ": " ++ a ++ ": loop count out of range") 1
          checkFailure inner
          throw (.breaking s.loopDepth)
        else go n.toNat

def exit (args : List String) : Act Unit := do
  let s ← get
  if s.isStrict then
    match args with
    | [] => throw .leaving
    | a :: _ =>
      match Builtin.count? a with
      | some n =>
        Act.setStatus (n % 256)
        throw .leaving
      | none => Builtin.refuse "exit" ("Illegal number: " ++ a) 2
  else
    match Builtin.operands args with
    | [] => throw .leaving
    | a :: more =>
      match Builtin.number? a, more with
      | some _, _ :: _ => Builtin.refuseMany "exit"
      | some n, [] =>
        Act.setStatus (n % 256).toNat
        throw .leaving
      | none, _ =>
        Act.fault ("exit: " ++ a ++ ": numeric argument required") 2
        throw .leaving

/-- Returns from a function or from a file whose commands are evaluated. -/
def giveBack (args : List String) : Act Unit := do
  let s ← get
  if s.isStrict then
    match args with
    | [] => throw .returning
    | a :: _ =>
      match Builtin.count? a with
      | some n =>
        Act.setStatus (n % 256)
        throw .returning
      | none => Builtin.refuse "return" ("Illegal number: " ++ a) 2
  else
    let go : Act Unit := do
      if s.isInFunction || s.isSourced then throw .returning
      else Act.fault "return: can only \x60return' from a function or sourced script" 2
    match Builtin.operands args with
    | [] => go
    | a :: more =>
      match Builtin.number? a, more with
      | some _, _ :: _ => Builtin.refuseMany "return"
      | some n, [] =>
        Act.setStatus (n % 256).toNat
        go
      | none, _ =>
        Act.fault ("return: " ++ a ++ ": numeric argument required") 2
        go

def eval (args : List String) : Act Unit := do
  let s ← get
  let go (args : List String) : Act Unit := do
    let text := " ".intercalate args
    if text.toList.all isSpace then Act.setStatus 0
    else
      modify fun s => { s with
        caller := if s.isStrict then "eval: " else ""
        traceDepth := if s.isStrict then 0 else s.traceDepth + 1 }
      Act.protect (runText inner .eval text (if s.isStrict then 1 else s.line))
        (modify fun t => { t with caller := s.caller, line := s.line, traceDepth := s.traceDepth })
  if s.isStrict then go args
  else Builtin.withOptions "eval" "" args fun o => go o.rest

def sourcePlace? (s : State) (name : String) : Option String :=
  if name.contains '/' then some name
  else
    let inPath := s.searchPath.findSome? fun d =>
      let path := if d.isEmpty then name else d ++ "/" ++ name
      match s.world.files.find s.directory path with
      | .ok (_, .file ..) => some path
      | _ => none
    inPath.or (if s.isStrict || s.hasOption "posix" then none else some name)

def source (name : String) (args : List String) : Act Unit := do
  let s ← get
  let run (file : String) (args : List String) : Act Unit := do
    let missing (path : String) (f : FileFault) : Act Unit := do
      if !s.isStrict && s.hasOption "posix" && !path.contains '/' then
        Act.fault (name ++ ": " ++ path ++ ": file not found") 1
        throw .leaving
      else if s.isStrict then
        Builtin.refuse "." (if path.contains '/' then
          "cannot open " ++ path ++ ": " ++ (if f == .missing then "No such file" else f.reason)
          else path ++ ": not found") 2
      else Act.fault (path ++ ": " ++ f.reason) 1
    match sourcePlace? s file with
    | none => missing file .missing
    | some path =>
      let content ← do
        match Program.descriptor? (Path.resolve s.directory path) with
        | some n => pure (.ok ((← Act.takeText n).toOption.getD ""))
        | none =>
          pure (if Path.resolve s.directory path = "/dev/null" then .ok ""
            else s.world.files.read s.directory path)
      match content with
      | .error .isDirectory =>
        if s.isStrict then Act.setStatus 0
        else Act.fault (name ++ ": " ++ file ++ ": is a directory") 1
      | .error f => missing file f
      | .ok text =>
        modify fun t => { t with
          status := 0
          source := if s.isStrict then t.source else path
          caller := if s.isStrict then path ++ ": " else ""
          parameters := if args.isEmpty || s.isStrict then t.parameters else args
          isSourced := true
          scopes := if s.isStrict then t.scopes
            else ⟨false, "source", path, s.line, none, []⟩ :: t.scopes
          traceDepth := if s.isStrict then 0 else t.traceDepth + 1 }
        let body : Act Unit := do
          try runText inner .file text 1
          catch e => if e == .returning then pure () else throw e
          runTrap inner "RETURN"
        Act.protect body (modify fun t => { (if s.isStrict then t else t.leaveScope) with
          source := s.source
          caller := s.caller
          parameters := if args.isEmpty || s.isStrict then t.parameters else s.parameters
          isSourced := s.isSourced
          line := s.line
          traceDepth := s.traceDepth })
  if s.isStrict then
    match args with
    | [] => Act.setStatus 0
    | file :: args => run file args
  else
    Builtin.withOptions name "" args fun o => do
      match o.rest with
      | [] =>
        Act.complain (name ++ ": filename argument required")
        Builtin.showUsage name
      | file :: args => run file args

def printf (args : List String) : Act Unit := do
  let s ← get
  let go (target? : Option String) (template : String) (args : List String) : Act Unit := do
    let (text, faults, status) := Format.format s.charset s.isStrict (Format.placeOf s) template args
    faults.forM fun f => Act.complain ("printf: " ++ f)
    Act.setStatus status
    match target? with
    | some name =>
      match Parameter.named? false name.toList with
      | some (n, k, []) =>
        if isName n.toList then
          let _ ← Assigning.assign? (evaluateArithmetic "") n k false text
        else Act.fault ("printf: \x60" ++ name ++ "': not a valid identifier") 2
      | _ => Act.fault ("printf: \x60" ++ name ++ "': not a valid identifier") 2
    | none => Builtin.say "printf" text
  if s.isStrict then
    Builtin.withOptions "printf" "" args fun o => do
      match o.rest with
      | [] => Builtin.refuse "printf" "usage: printf format [arg ...]" 2
      | template :: args => go none template args
  else
    Builtin.withOptions "printf" "v:" args fun o => do
      match o.rest with
      | [] => Builtin.showUsage "printf"
      | template :: args => go (o.argument? 'v') template args

end

end Evaluation

end GatedPipeline.Shell
