import GatedPipeline.Shell.Evaluation.Completing
import GatedPipeline.Shell.Evaluation.Programs
import GatedPipeline.Shell.Builtin.Directories
import GatedPipeline.Shell.Builtin.Names

namespace GatedPipeline.Shell

namespace Evaluation

section

/- Evaluates a command within another one. -/
variable (inner : Command → Act Unit)

def builtin (name : String) (args : List Argument) : Act Unit := do
  let s ← get
  let texts := args.map Argument.shown
  match name with
  | ":" => Act.setStatus 0
  | "true" => Act.setStatus 0
  | "false" => Act.setStatus 1
  | "echo" =>
    Act.setStatus 0
    Builtin.say "echo" (Format.echo s.charset s.isStrict (s.hasExtra "xpg_echo") texts)
  | "printf" => printf texts
  | "test" => Testing.command "test" texts
  | "[" => Testing.command "[" texts
  | "break" => breakLoops inner true texts
  | "continue" => breakLoops inner false texts
  | "exit" => exit texts
  | "return" => giveBack texts
  | "eval" => eval inner texts
  | "." => source inner "." texts
  | "source" => source inner "source" texts
  | "exec" => exec inner texts
  | "cd" => Builtin.cd texts
  | "chdir" => Builtin.cd texts
  | "pwd" => Builtin.pwd texts
  | "pushd" => Builtin.pushd texts
  | "popd" => Builtin.popd texts
  | "dirs" => Builtin.dirs texts
  | "declare" => Builtin.declare "declare" args
  | "typeset" => Builtin.declare "typeset" args
  | "local" => if s.isStrict then Builtin.localPlainly texts else Builtin.declare "local" args
  | "export" =>
    if s.isStrict then Builtin.markPlainly "export" 'x' args
    else Builtin.markVariables "export" 'x' args
  | "readonly" =>
    if s.isStrict then Builtin.markPlainly "readonly" 'r' args
    else Builtin.markVariables "readonly" 'r' args
  | "unset" => Builtin.unset texts
  | "set" => Builtin.setOptions texts
  | "shopt" => Builtin.shopt texts
  | "shift" => Builtin.shift texts
  | "getopts" => Builtin.getopts texts
  | "let" => Builtin.letAll texts
  | "read" => Builtin.read texts
  | "mapfile" => Builtin.mapfile (runText inner .eval · s.line) "mapfile" texts
  | "readarray" => Builtin.mapfile (runText inner .eval · s.line) "readarray" texts
  | "jobs" => Builtin.jobs texts
  | "wait" => do
    Builtin.wait texts
    Act.forgetEnded
  | "kill" => Builtin.kill texts
  | "trap" => Builtin.trap texts
  | "disown" => Builtin.disown texts
  | "bg" => Builtin.moveJob "bg" texts
  | "fg" => Builtin.moveJob "fg" texts
  | "umask" => Builtin.umask texts
  | "ulimit" => Builtin.ulimit texts
  | "times" => Builtin.times texts
  | "type" => Builtin.type texts
  | "hash" => Builtin.hash texts
  | "alias" => Builtin.showOrSetAliases texts
  | "unalias" => Builtin.unalias texts
  | "enable" => Builtin.enable texts
  | "caller" => Builtin.caller texts
  | "help" => Builtin.help texts
  | "suspend" => Act.fault "suspend: cannot suspend: no job control" 1
  | "logout" => Act.fault "logout: not login shell: use \x60exit'" 1
  | "bind" => Act.fault "bind: warning: line editing not enabled" 0
  | "complete" => Builtin.complete texts
  | "compopt" => Builtin.compopt texts
  | "compgen" => compgen inner texts
  | _ => Act.setStatus 0

/-- Says that what a command of the shell itself has said could not be written. -/
def tellLost (name : String) : Act Unit := do
  let s ← get
  if s.hasLostOutput then
    set { s with hasLostOutput := false }
    if s.isStrict then Act.fault (name ++ ": " ++ name ++ ": I/O error") 1
    else if name != "command" then
      Act.fault (name ++ ": write error: No space left on device") 1

/-- Carries out a command of the shell itself. What a plain shell refuses ends it, if the command
is a special one. -/
def runBuiltin (isGuarded : Bool) (name : String) (args : List Argument) : Act Unit := do
  let s ← get
  if s.isStrict then
    if name != "eval" && name != "." then modify fun s => { s with caller := "" }
    let act : Act Unit := do
      try builtin inner name args
      catch e =>
        if e == .discarding then
          if !isGuarded && Builtin.specialNames.contains name then throw .leaving
        else throw e
    Act.protect act (modify fun t => { t with caller := s.caller })
    tellLost name
  else
    builtin inner name args
    tellLost name
    let isWrong := (← Act.status) == 2 && !(["eval", ".", "source", "exec"].contains name)
    if isWrong && !isGuarded && Builtin.mindsSpecial s name then throw .leaving

inductive Chosen where
  | function (f : Function)
  | builtin (name : String)
  | program (name : String)

structure Choice where
  chosen : Chosen
  args : List Argument
  isGuarded : Bool

def choose (s : State) (skipsFunctions : Bool) (name : String) : Chosen :=
  let own : Option Chosen := if Builtin.isOwn s name then some (.builtin name) else none
  let function : Option Chosen :=
    if skipsFunctions then none else (s.functions.get? name).map .function
  let isSpecial := Builtin.mindsSpecial s name
  (if isSpecial then own.or function else function.or own).getD (.program name)

def tellDeath (text : String) : Death → Act Unit
  | some (process, signal) => Builtin.tellEnd true process text signal
  | none => return ()

def runProgram (name : String) (args : List String) : Act Death := do
  let s ← get
  if s.isLast && s.traps.all (·.2.isEmpty) && (s.place? name).isSome then
    replaced inner name args
    return none
  else
    let death ← program inner (args.length + 2) name args
    if !s.isReplaced && (s.place? name).isSome then
      modify fun t => { t with ended := s.ended.map (· + 1) }
    match death with
    | some death => if s.isReplaced then throw (.killed death.2) else return some death
    | none => return none

/-- What a plain shell refuses here does not end it. -/
def guarded (act : Act Unit) : Act Unit := do
  try act
  catch e => if e == .discarding && (← Act.isStrict) then pure () else throw e

def invoke : Nat → Choice → List Redirection → String → Act Unit
  | 0, _, _, _ => Act.setStatus 1
  | n + 1, c, rs, name => do
    let s ← get
    let texts := c.args.map Argument.shown
    match c.chosen with
    | .function f =>
      modify fun s => { s with isLast := false }
      let _ ← redirected inner rs (call inner name f texts)
    | .program name =>
      let text := (s.current.map fun c => c.headline s.documents).getD ""
      if s.isStrict then
        let _ ← redirected inner rs (do tellDeath text (← runProgram inner name texts))
      else
        let death ← redirectedApart inner rs (runProgram inner name texts)
        Act.forgetEnded
        tellDeath text death.join
    | .builtin "command" =>
      let _ ← redirected inner rs (guarded (
        Builtin.withOptions "command" "pVv" texts fun o => do
          if o.has 'v' || o.has 'V' then
            Builtin.tellCommands (o.has 'V') o.rest
            tellLost "command"
          else
            match c.args.drop (c.args.length - o.rest.length) with
            | [] => Act.setStatus 0
            | first :: args =>
              invoke n ⟨choose (← get) true first.shown, args, true⟩ [] first.shown))
    | .builtin "builtin" =>
      let _ ← redirected inner rs (
        Builtin.withOptions "builtin" "" texts fun o => do
          match c.args.drop (c.args.length - o.rest.length) with
          | [] => Act.setStatus 0
          | first :: args =>
            if Builtin.isOwn (← get) first.shown then
              invoke n ⟨.builtin first.shown, args, true⟩ [] first.shown
            else Act.fault ("builtin: " ++ first.shown ++ ": not a shell builtin") 1)
    | .builtin "exec" =>
      if ← Redirecting.all (substitute inner) rs then
        runBuiltin inner c.isGuarded "exec" c.args
        modify fun t => { t with substituted := s.substituted }
      else if Builtin.mindsSpecial s "exec" then throw .leaving
    | .builtin name =>
      let done ← redirected inner rs (runBuiltin inner c.isGuarded name c.args)
      if done.isNone && Builtin.mindsSpecial s name then throw .leaving

/-- Tells the elements that are among the arguments of a command, and then the command. -/
def tellCommand (args : List Argument) : Act Unit := do
  let s ← get
  if s.hasOption "xtrace" then
    let tell := Tracing.tell (substitute inner)
    args.forM fun a => do
      match a with
      | .elements name appends items => tell (Tracing.elements name appends items)
      | .text _ => return ()
    tell (" ".intercalate (args.map fun a => Quoting.traced s.charset a.shown))

/-- Tells a command of a plain shell with the assignments in front of it. -/
def tellPlainly (assigned : List String) (args : List Argument) : Act Unit :=
  Tracing.tell (substitute inner) (" ".intercalate (assigned ++ args.map Argument.shown))

def withScope (act : Act Unit) (atEnd : Act Unit) : Act Unit := do
  modify fun s => { s with scopes := ⟨false, "", "", 0, none, []⟩ :: s.scopes }
  Act.protect act (do
    atEnd
    modify State.leaveScope)

def setTemporarily (name value : String) (attributes : Attributes) : Act Unit :=
  modify fun s =>
    match s.scopes with
    | scope :: rest =>
      let v : Variable := ⟨.text value, { attributes with isExported := true }⟩
      State.noteChange name
        { s with scopes := { scope with bindings := scope.bindings.insert name v } :: rest }
    | [] => s

/-- An assignment for one command only, in a plain shell. -/
def assignForCommandPlainly (w : Word) : Act String := do
  match Assignment.inDialect? true w with
  | none => return w
  | some a =>
    let value ← Expansion.value (substitute inner) a.value
    let v := (← get).lookup? a.name
    if v.any (·.attributes.isReadOnly) then
      Act.fault (a.name ++ ": is read only") 2
      throw .leaving
    setTemporarily a.name value ((v.map Variable.attributes).getD Attributes.none)
    return a.name ++ "=" ++ value

def assignForCommand (w : Word) : Act Unit := do
  match Assignment.ofWord? w with
  | none => return ()
  | some a =>
    let value ← Expansion.value (substitute inner) a.value
    let v := (← get).lookup? a.name
    if a.subscript.isSome then
      Act.complain ("\x60" ++ a.name ++ "[" ++ a.subscript.getD "" ++ "]': not a valid identifier")
    else if v.any (·.attributes.isReadOnly) then
      Act.complain (a.name ++ ": readonly variable")
      if (← get).hasOption "errexit" || (← get).hasOption "posix" then
        Act.setStatus 1
        throw .leaving
    else
      let attributes := (v.map Variable.attributes).getD Attributes.none
      let old := (v.bind (·.value.plain?)).getD ""
      let value ←
        if a.appends then Assigning.appended (evaluateArithmetic "") attributes old value
        else pure value
      Tracing.tell (substitute inner) (Tracing.assignment (← get).charset a.name false value)
      setTemporarily a.name value attributes

/-- Evaluates a simple command of a plain shell. The line where its first word ends is taken for
that of the command while its words are expanded. -/
def simplePlainly (assignments words : List Word) (rs : List Redirection) : Act Unit := do
  let before ← get
  let start := before.line - (((assignments ++ words).headD "").toList.count '\n')
  modify fun s => { s with line := start }
  let args ← arguments inner words
  if !args.isEmpty then modify fun s => { s with line := before.line }
  match args with
  | [] =>
    let assigned ← assignments.mapM (Elements.assignPlainly (substitute inner))
    if !assigned.isEmpty then tellPlainly inner assigned []
    Act.setStatus ((← get).innerStatus.getD 0)
    let _ ← redirected inner rs (return ())
  | first :: rest =>
    let name := first.shown
    let choice : Choice := ⟨choose (← get) false name, rest, false⟩
    let isSpecial := match choice.chosen with
      | .builtin n => Builtin.specialNames.contains n
      | _ => false
    let run (assigned : List String) : Act Unit := do
      tellPlainly inner assigned args
      invoke inner 10 choice rs name
    if isSpecial || assignments.isEmpty then
      run (← assignments.mapM (Elements.assignPlainly (substitute inner)))
    else
      withScope (do run (← assignments.mapM (assignForCommandPlainly inner))) (return ())
    modify fun s => { s with lastArgument := (args.getLast?.map Argument.shown).getD "" }

def simpleFully (assignments words : List Word) (rs : List Redirection) : Act Unit := do
  let before ← get
  let (assignments, words) :=
    if before.hasOption "keyword" then
      (assignments ++ words.filter Expansion.isAssigning,
        words.filter (!Expansion.isAssigning ·))
    else (assignments, words)
  let args ← arguments inner words
  match args with
  | [] =>
    assignments.forM (Elements.assign (substitute inner))
    Act.setStatus ((← get).innerStatus.getD 0)
    let _ ← redirected inner rs (return ())
    closeSubstituted inner before
  | first :: rest =>
    let name := first.shown
    let choice : Choice := ⟨choose (← get) false name, rest, false⟩
    let run : Act Unit := do
      tellCommand inner args
      invoke inner 10 choice rs name
    let isSpecial := match choice.chosen with
      | .builtin n => Builtin.mindsSpecial before n
      | _ => false
    if assignments.isEmpty then run
    else if isSpecial then
      assignments.forM fun w => do
        Elements.assign (substitute inner) w
        (Assignment.ofWord? w).forM fun a => modify fun s => s.modifyVariable a.name fun v =>
          { v with attributes := { v.attributes with isExported := true } }
      run
    else
      withScope (do
        assignments.forM (assignForCommand inner)
        run) (do
        let isOwn := match choice.chosen with
          | .builtin _ => true
          | _ => false
        if isOwn && (← get).lostCount.isSome then
          Act.complain "pop_scope: head of shell_variables not a temporary environment scope")
    closeSubstituted inner before
    modify fun s => { s with lastArgument := (args.getLast?.map Argument.shown).getD "" }

/-- Evaluates a simple command in the way of the shell, without what comes before and after it. -/
def simpleAlone (assignments words : List Word) (rs : List Redirection) : Act Unit := do
  modify fun s => { s with innerStatus := none }
  if ← Act.isStrict then simplePlainly inner assignments words rs
  else simpleFully inner assignments words rs

def simple (line : Nat) (assignments words : List Word) (rs : List Redirection) : Act Unit := do
  if line != 0 then modify fun s => { s with line := line }
  runDebug inner
  simpleAlone inner assignments words rs
  Act.warn
  finish inner

end

end Evaluation

end GatedPipeline.Shell
