import GatedPipeline.Shell.Evaluation.Control
import GatedPipeline.Shell.Evaluation.Launching
import GatedPipeline.Shell.Program.Named

namespace GatedPipeline.Shell

namespace Evaluation

section

/- Evaluates a command within another one. -/
variable (inner : Command → Act Unit)

/-- The shell that a name stands for: whether it is a plain one. -/
def shellKind? (name : String) : Option Bool :=
  [("bash", false), ("sh", true), ("dash", true)].lookup name

structure ShellCall where
  options : List (Bool × String)
  extras : List (Bool × String)
  hasCommand : Bool
  readsInput : Bool
  rest : List String

/-- Reads the options of a shell, or says which one is none. -/
def shellCall? (isStrict : Bool) : Nat → List String → ShellCall → Except String ShellCall
  | 0, _, c => .ok c
  | _ + 1, [], c => .ok c
  | n + 1, a :: rest, c =>
    let table := if isStrict then Builtin.plainOptions else State.optionNames
    match a.toList with
    | ['-', '-'] => .ok { c with rest := rest }
    | ['-'] => .ok { c with rest := rest }
    | '-' :: '-' :: word =>
      let word := String.ofList word
      if isStrict then .error "--"
      else if word = "posix" || word = "verbose" then
        shellCall? isStrict n rest { c with options := c.options ++ [(true, word)] }
      else if word = "login" then
        shellCall? isStrict n rest { c with extras := c.extras ++ [(true, "login_shell")] }
      else if word = "rcfile" || word = "init-file" then shellCall? isStrict n (rest.drop 1) c
      else if ["norc", "noprofile", "restricted", "noediting", "debugger"].contains word then
        shellCall? isStrict n rest c
      else .error a
    | sign :: x :: xs =>
      if sign == '-' || sign == '+' then
        let isOn := sign == '-'
        let rec letters :
            List Char → List String → ShellCall → Except String (List String × ShellCall)
          | [], rest, c => .ok (rest, c)
          | x :: xs, rest, c =>
            if x == 'c' && isOn then letters xs rest { c with hasCommand := true }
            else if x == 's' then letters xs rest { c with readsInput := true }
            else if x == 'l' then
              letters xs rest { c with extras := c.extras ++ [(true, "login_shell")] }
            else if x == 'i' || (x == 'r' && !isStrict) then letters xs rest c
            else if x == 'o' then
              match rest with
              | name :: rest => letters xs rest { c with options := c.options ++ [(isOn, name)] }
              | [] => letters xs [] c
            else if x == 'O' && !isStrict then
              match rest with
              | name :: rest => letters xs rest { c with extras := c.extras ++ [(isOn, name)] }
              | [] => letters xs [] c
            else
              match table.find? fun o => o.2 == x && x != ' ' with
              | some o => letters xs rest { c with options := c.options ++ [(isOn, o.1)] }
              | none => .error (String.ofList [sign, x])
        match letters (x :: xs) rest c with
        | .ok (rest, c) => shellCall? isStrict n rest c
        | .error e => .error e
      else .ok { c with rest := a :: rest }
    | _ => .ok { c with rest := a :: rest }

/-- What a shell is told that has been given an option it does not have. -/
def usage (name : String) : String :=
  "Usage:\t" ++ name ++ " [GNU long option] [option] ...\n\t" ++ name ++
    " [GNU long option] [option] script-file ...\nGNU long options:\n" ++
    String.join (["debug", "debugger", "dump-po-strings", "dump-strings", "help", "init-file",
      "login", "noediting", "noprofile", "norc", "posix", "pretty-print", "rcfile", "restricted",
      "verbose", "version"].map fun o => "\t--" ++ o ++ "\n") ++
    "Shell options:\n\t-ilrsD or -c command or -O shopt_option\t\t(invocation only)\n" ++
    "\t-abefhkmnptuvxBCEHPT or -o option\n"

def takeEnvironment (name : String) (environment : List (String × String)) : Act Unit := do
  environment.forM fun v => do
    match Startup.functionName? v.1 v.2 with
    | some function => takeOver function v.2 v.1
    | none => return ()
  let depth := Startup.nesting environment
  if Startup.deepest < depth then
    Act.put 2 (name ++ ": warning: shell level (" ++ toString depth ++
      ") too high, resetting to 1\n")
  let language := (environment.lookup "LC_ALL").getD ""
  if !language.isEmpty && (State.charsetNamed? language).isNone then
    Act.put 2 (name ++ ": warning: setlocale: LC_ALL: cannot change locale (" ++ language ++ ")\n")
  if (environment.lookup "POSIX_PEDANTIC").isSome then Builtin.setOption true "posix"
  modify fun s => s.noteStandard (s.hasOption "posix")
  let options (name : String) : List String :=
    (((environment.lookup name).getD "").splitOn ":").filter (!·.isEmpty)
  (options "SHELLOPTS").forM fun o => do
    if State.optionNames.any (·.1 == o) then Builtin.setOption true o
    else Act.put 2 (name ++ ": line 0: " ++ o ++ ": invalid option name\n")
  (options "BASHOPTS").forM fun o => do
    if Builtin.extraNames.contains o then modify fun s =>
      { s with extras := s.extras.filter (· != o) ++ [o] }

/-- Evaluates the file that the environment names for every shell. A failure in it does not end the
shell, unless the file wants that. -/
def runStartupFile : Act Unit := do
  let s ← get
  match s.value? "BASH_ENV" with
  | none => return ()
  | some text =>
    let s := { s with line := 0, options := s.options.filter (· != "errexit") }
    let isStrictest := (← get).hasOption "errexit"
    set s
    let path ←
      try
        let path ← Expansion.document (substitute inner) text
        pure (match path.toList with
          | '~' :: rest => ((Expansion.tilde? s rest).map fun t =>
              t.1 ++ String.ofList t.2).getD path
          | _ => path)
      catch _ => pure ""
    modify fun s => { s with line := 1, status := 0 }
    if !path.isEmpty then
      match s.world.files.read s.directory path with
      | .ok text =>
        modify fun s => { s with
          source := path
          isSourced := true
          scopes := [⟨false, "source", path, 0, none, []⟩] }
        let body : Act Unit := do
          try runText inner .file text 1
          catch e => if e == .returning then Act.setStatus 0 else throw e
        Act.protect body (modify fun t => { t with
          source := s.source, isSourced := false, scopes := [], line := 1 })
      | .error .isDirectory => Act.put 2 (s.name ++ ": " ++ path ++ ": is a directory\n")
      | .error _ => return ()
    if isStrictest then Builtin.setOption true "errexit"

def startShell (isStrict : Bool) (name : String) (args : List String) : Act Unit := do
  let environment := (← get).environment
  modify (Startup.shell isStrict name)
  let wrong (message : String) (status : Nat) : Act Unit := do
    Act.put 2 (name ++ ": " ++ (if isStrict then "0: " else "") ++ message ++ "\n")
    Act.setStatus status
  match shellCall? isStrict (args.length + 1) args ⟨[], [], false, false, []⟩ with
  | .error o =>
    wrong (if isStrict then "Illegal option " ++ o else o ++ ": invalid option") 2
    if !isStrict then Act.put 2 (usage name)
  | .ok c =>
    let table := if isStrict then Builtin.plainOptions else State.optionNames
    match c.options.find? fun o => !table.any (·.1 == o.2) with
    | some o =>
      wrong (if isStrict then "Illegal option -o " ++ o.2
        else "line 0: " ++ name ++ ": " ++ o.2 ++ ": invalid option name") 2
    | none =>
    match c.extras.find? fun o => !Builtin.extraNames.contains o.2 with
    | some o => wrong ("line 0: " ++ o.2 ++ ": invalid shell option name") 2
    | none =>
      c.options.forM fun o => Builtin.setOption o.1 o.2
      c.extras.forM fun o => modify fun s =>
        let others := s.extras.filter (· != o.2)
        { s with extras := if o.1 then others ++ [o.2] else others }
      if !isStrict then takeEnvironment name environment
      let whole (act : Act Unit) : Act Unit :=
        untilEnd inner (do
          let s ← get
          if !isStrict && !s.hasOption "posix" && !s.hasOption "privileged" then
            runStartupFile inner
          try act
          catch e => if e == .returning then throw .leaving else throw e)
      if c.hasCommand then
        match c.rest with
        | [] =>
          let lacks := if isStrict then " requires an argument" else ": option requires an argument"
          wrong ("-c" ++ lacks) 2
        | text :: rest =>
          modify fun s => { s with
            name := rest.headD name, source := rest.headD name, parameters := rest.drop 1
            origin := if isStrict then "" else "c" }
          if !isStrict then
            modify fun s => s.modifyGlobal "BASH_EXECUTION_STRING" fun v =>
              { v with value := .text text }
          whole (runText inner .main text 1)
      else
        match c.rest, c.readsInput with
        | file :: rest, false =>
          let s ← get
          let content ← do
            match Program.descriptor? (Path.resolve s.directory file) with
            | some n => pure (.ok ((← Act.takeText n).toOption.getD ""))
            | none => pure (s.world.files.read s.directory file)
          match content with
          | .ok text =>
            modify fun s => { s with
              name := file, source := file, functionSource := file, parameters := rest }
            whole (runText inner .main text 1)
          | .error f =>
            if isStrict && f == .isDirectory then Act.setStatus 0
            else if isStrict then
              wrong ("cannot open " ++ file ++ ": " ++
                (if f == .missing then "No such file" else f.reason)) 2
            else
              Act.put 2 ((if f == .isDirectory then file else name) ++ ": " ++ file ++ ": " ++
                f.reason ++ "\n")
              Act.setStatus (if f == .missing then 127 else 126)
        | rest, _ =>
          modify fun s => { s with parameters := rest, functionSource := "main", origin := "s" }
          whole (runStandardInput inner)

/-- Starts a shell in a process of its own, or in place of what has run in this one. -/
def shellProcess (isStrict : Bool) (name : String) (args : List String) : Act Death := do
  let s ← get
  let setup (child : State) : State :=
    if s.isReplaced then { child with
      process := s.process, ancestors := s.ancestors, world := s.world }
    else child
  let e ← Act.inChild setup (startShell inner isStrict name args)
  Act.setStatus e.state.status
  return e.signal.map (e.state.process, ·)

def refuseProgram (caller name : String) : Act Unit := do
  let s ← get
  let tell (reason : String) (status : Nat) : Act Unit :=
    Act.fault (caller ++ name ++ ": " ++ reason) status
  if name.contains '/' then
    match Testing.kind? s name with
    | some .directory =>
      if s.isStrict then tell "Permission denied" 126 else tell "Is a directory" 126
    | some _ => tell "Permission denied" 126
    | none =>
      if s.isStrict then tell "not found" 127
      else
        match s.world.files.find s.directory name with
        | .error f => tell f.reason (if f == .notDirectory then 126 else 127)
        | .ok _ => tell "No such file or directory" 127
  else if !s.isStrict && (s.value? "PATH").isNone then tell "No such file or directory" 127
  else
    match s.blocked? name with
    | some path =>
      if s.isStrict then tell "Permission denied" 127
      else Act.fault (path ++ ": Permission denied") 126
    | none =>
      if s.isStrict || !caller.isEmpty then tell "not found" 127
      else Act.fault (Quoting.visible s.charset name ++ ": command not found") 127

/-- The interpreter that the first line of a text names, with its argument. -/
def interpreter? (text : String) : Option (String × List String) :=
  match text.toList with
  | '#' :: '!' :: cs =>
    let line := String.ofList ((cs.takeWhile (· != '\n')).dropWhile isBlank)
    let words := (line.splitOn " ").filter (!·.isEmpty)
    match words with
    | "/usr/bin/env" :: name :: rest => some (name, rest)
    | name :: rest => some (name, rest)
    | [] => none
  | _ => none

/-- The function that is called in place of a program that is not found. -/
def handlerName : String := "command_not_found_handle"

/-- Says at the end that what a program has said could not be written. -/
def orLost (name base : String) (act : Act Death) : Act Death := do
  let death ← act
  Program.tellLost name base
  return death

/-- Runs a program that is found; `depth` bounds programs that run others. -/
def program : Nat → String → List String → Act Death
  | 0, _, _ => do
    Act.setStatus 126
    return none
  | depth + 1, name, args => do
    let s ← get
    match s.place? name with
    | none =>
      match if s.isStrict || name.contains '/' then none else s.functions.get? handlerName with
      | some f =>
        let e ← Act.inChild Act.withoutListed
          (untilEnd inner (call inner handlerName f (name :: args)))
        Act.setStatus e.state.status
        return e.signal.map (e.state.process, ·)
      | none =>
        refuseProgram "" name
        return none
    | some path =>
      modify fun s => { s.noteFound name path 1 with lastArgument := path }
      let full := Path.resolve s.directory path
      let simple (act : Act Unit) : Act Death := do
        try act
        catch e => if e == .killed 13 then Act.setStatus 141 else throw e
        return none
      if isInstalled full then
        let base := Program.baseName full
        match shellKind? base with
        | some strict => shellProcess inner strict name args
        | none =>
          match base, args with
          | "env", _ => orLost name base (runEnv (program depth) args)
          | "timeout", _ => runTimeout (program depth) args
          | "xargs", _ => runXargs (program depth) args
          | "find", _ => orLost name base (runFind (program depth) args)
          | "nohup", name :: args => program depth name args
          | "nice", name :: args => program depth name args
          | "setsid", name :: args => program depth name args
          | _, _ =>
            match Program.named? base with
            | some act => simple (do
                act args
                Program.tellLost name base)
            | none =>
              Act.setStatus 0
              return none
      else
        let text := (s.world.files.content? full).getD ""
        match interpreter? text with
        | some (shell, options) =>
          match shellKind? (Program.baseName shell) with
          | some strict => shellProcess inner strict shell (options ++ path :: args)
          | none =>
            match Program.named? (Program.baseName shell) with
            | some act => simple (act (options ++ path :: args))
            | none =>
              Act.fault (name ++ ": cannot execute: required file not found") 127
              return none
        | none => shellProcess inner s.isStrict (if s.isStrict then "sh" else "bash") (path :: args)

def replaced (name : String) (args : List String) : Act Unit := do
  modify fun s => { s with isReplaced := true, traps := s.traps.filter (·.2.isEmpty) }
  let s ← get
  if !s.isStrict then
    let depth := ((s.value? "SHLVL").bind String.toNat?).getD 0
    modify fun s => s.modifyVariable "SHLVL" fun v =>
      { v with value := .text (toString (depth - 1)) }
  match ← program inner (args.length + 2) name args with
  | some (_, signal) => throw (.killed signal)
  | none =>
    if (← Act.status) == 141 then throw (.killed 13)
    throw .leaving

/-- The command `exec`. Redirections that come with it stay. -/
def exec (args : List String) : Act Unit := do
  let s ← get
  let go (o : Builtin.Options) : Act Unit := do
    match o.rest with
    | [] => Act.setStatus 0
    | name :: args =>
      match s.place? name with
      | some _ =>
        if o.has 'c' then
          modify fun s => { s with
            bindings := Bindings.ofList [("PATH", .ofText (":".intercalate s.searchPath))]
            scopes := []
            handed := some [] }
        match o.argument? 'a', shellKind? (Program.baseName ((s.place? name).getD name)) with
        | some shown, some strict =>
          modify fun s => { s with isReplaced := true }
          match ← shellProcess inner strict shown args with
          | some (_, signal) => throw (.killed signal)
          | none =>
            modify fun s => { s with traps := [] }
            throw .leaving
        | _, _ => replaced inner (if s.isStrict then name else full s name) args
      | none =>
        if s.isStrict || !name.contains '/' then refuseProgram "exec: " name
        else
          let full := full s name
          refuseProgram "" full
          let reason? : Option String :=
            match Testing.kind? s name, s.world.files.find s.directory name with
            | some .directory, _ => some FileFault.isDirectory.reason
            | some _, _ => some FileFault.denied.reason
            | none, .error .notDirectory => some FileFault.notDirectory.reason
            | none, _ => none
          reason?.forM fun reason =>
            Act.fault ("exec: " ++ full ++ ": cannot execute: " ++ reason) 126
        if s.isStrict || !s.hasExtra "execfail" then throw .leaving
  if s.isStrict then go ⟨[], args⟩ else Builtin.withOptions "exec" "cla:" args go
where
  full (s : State) (name : String) : String :=
    if !name.contains '/' then name
    else
      Path.join s.directory
        (if name.startsWith "./" then String.ofList (name.toList.drop 2) else name)

end

end Evaluation

end GatedPipeline.Shell
