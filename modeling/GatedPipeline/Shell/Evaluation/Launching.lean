import GatedPipeline.Shell.Builtin.Jobs
import GatedPipeline.Shell.Program.Finding
import GatedPipeline.Shell.Program.Numbers
import GatedPipeline.Shell.Search
import GatedPipeline.Shell.Startup

namespace GatedPipeline.Shell

namespace Evaluation

abbrev Death := Option (Nat × Nat)

abbrev Launch := String → List String → Act Death

/-- The variables that `env` sets before it runs a program. -/
def envVariables : List String → List (String × String) × List String
  | [] => ([], [])
  | a :: rest =>
    let name := String.ofList (a.toList.takeWhile (· != '='))
    if name.length < a.length then
      let r := envVariables rest
      let given := (name, String.ofList (a.toList.drop (name.length + 1)))
      (if name.isEmpty then r.1 else given :: r.1, r.2)
    else ([], a :: rest)

/-- The words in a text: quotes and backslashes keep what would separate them. Tells a quote that is
not closed on its line. -/
def inputWords (separates : Char → Bool) :
    Nat → List Char → Option (List Char) → Except Char (List String)
  | 0, _, _ => .ok []
  | _ + 1, [], acc => .ok (acc.map fun cs => String.ofList cs.reverse).toList
  | n + 1, c :: cs, acc =>
    if c == '\\' then
      match cs with
      | x :: cs => inputWords separates n cs (some (x :: acc.getD []))
      | [] => inputWords separates n [] acc
    else if c == '\'' || c == '"' then
      let inside := cs.takeWhile fun x => x != c && x != '\n'
      match cs.drop inside.length with
      | x :: cs =>
        if x == c then inputWords separates n cs (some (inside.reverse ++ acc.getD []))
        else .error c
      | [] => .error c
    else if separates c then do
      let rest ← inputWords separates n cs none
      return (acc.map fun cs => String.ofList cs.reverse).toList ++ rest
    else inputWords separates n cs (some (c :: acc.getD []))

def groupsOf (size : Nat) : Nat → List String → List (List String)
  | 0, _ => []
  | n + 1, items =>
    if items.isEmpty then [] else items.take size :: groupsOf size n (items.drop size)

/-- Runs a program for another one, which says for itself that it cannot be run. -/
def runOther (launch : Launch) (front name : String) (args : List String) : Act Death := do
  let s ← get
  match s.place? name with
  | some _ => launch name args
  | none =>
    let isThere := name.contains '/' && (Testing.kind? s name).isSome
    let quoted ← Program.shownArgument name
    let shown :=
      if front = "env" then quoted
      else if front = "timeout" then "failed to run command " ++ quoted
      else name
    Act.put 2 (front ++ ": " ++ shown ++ ": " ++
      (if isThere then "Permission denied" else "No such file or directory") ++ "\n")
    Act.setStatus (if isThere then 126 else 127)
    return none

def withVariables (environment given : List (String × String)) : List (String × String) :=
  given.foldl (fun vs v =>
    if (vs.lookup v.1).isSome then vs.map fun w => if w.1 = v.1 then v else w else vs ++ [v])
    environment

def envUsage : Program.Usage :=
  ⟨"env", "+iu:0C:v", [("ignore-environment", 'i'), ("unset", 'u'), ("null", '0'), ("chdir", 'C'),
    ("debug", 'v')], 125⟩

def runEnv (launch : Launch) (args : List String) : Act Death := do
  let refuse (message : String) : Act Death := do
    Program.refuse "env" message 125
    return none
  match Program.readOptions envUsage (args.length + 1) [] [] args with
  | .error e => refuse e
  | .ok o =>
    let isBare := o.rest.head? == some "-"
    let (given, command) := envVariables (if isBare then o.rest.drop 1 else o.rest)
    let without := (o.given.filter (·.1 == 'u')).map (·.2)
    let s ← get
    let kept := (if o.has 'i' || isBare then [] else s.environment).filter fun v =>
      !without.contains v.1
    let environment := withVariables kept given
    match command with
    | [] =>
      let mark := if o.has '0' then "\x00" else "\n"
      Program.say (String.join (environment.map fun v => v.1 ++ "=" ++ v.2 ++ mark))
      Act.setStatus 0
      return none
    | name :: args =>
      if o.has '0' then refuse "cannot specify --null (-0) with command"
      else
        let directory := (o.argument? 'C').map (Path.resolve s.directory)
        let exported (v : String × String) : String × Variable :=
          (v.1, ⟨.text v.2, { Attributes.none with isExported := true }⟩)
        if !(directory.all s.world.files.isDirectory) then
          Program.fail "env" ("cannot change directory to " ++
            (← Program.shownPath ((o.argument? 'C').getD "")) ++ ": No such file or directory") 125
          return none
        else
          set { s with
            bindings :=
              (Bindings.ofList [("PATH", Variable.ofText Startup.fallbackPath)]).insertAll
                (environment.map exported)
            scopes := []
            found := []
            directory := directory.getD s.directory
            handed := some environment }
          let restore : Act Unit :=
            modify fun t => { t with
              bindings := s.bindings, scopes := s.scopes, found := s.found
              directory := s.directory, handed := s.handed }
          let death : Death ←
            try runOther launch "env" name args
            catch e =>
              restore
              throw e
          restore
          return death

def timeoutUsage : Program.Usage :=
  ⟨"timeout", "+k:s:v", [("foreground", 'F'), ("kill-after", 'k'), ("preserve-status", 'P'),
    ("signal", 's'), ("verbose", 'v')], 125⟩

/-- Runs a program until a signal ends it after some time. -/
def runFor (launch : Launch) (o : Builtin.Options)
    (duration signal : Nat) (name : String) (args : List String) : Act Death := do
  let s ← get
  let limit := s.now + duration
  let isInner := duration != 0 && s.world.limit.all (limit < ·)
  if !isInner then runOther launch "timeout" name args
  else
    let child := Act.childOf s
    let act : Act Unit := do
      match ← runOther launch "timeout" name args with
      | some (_, signal) => throw (.killed signal)
      | none => return ()
    let limited := { child.world with limit := some limit }
    let e := Act.evaluateChild act { child with world := limited }
    let keepsStatus := o.has 'P' || signal == 9
    set { s with
      world := { e.state.world with limit := s.world.limit }
      now := e.state.now
      status :=
        if e.isEndless then (if keepsStatus then 128 + signal else 124) else e.state.status }
    if e.isEndless then
      if o.has 'v' then
        Act.put 2 ("timeout: sending signal " ++ signalName signal ++ " to command " ++
          (← Program.shownArgument name) ++ "\n")
      return if signal == 9 && !o.has 'F' then some (child.process, 9) else none
    else return e.signal.map (child.process, ·)

/-- Runs a program for no longer than a time. -/
def runTimeout (launch : Launch) (args : List String) : Act Death := do
  let refuse (message : String) : Act Death := do
    Program.refuse "timeout" message 125
    return none
  match Program.readOptions timeoutUsage (args.length + 1) [] [] args with
  | .error e => refuse e
  | .ok o =>
    let wrong := (o.argument? 'k').filter fun t => (Program.duration? t).isNone
    let named := o.argument? 's'
    match wrong, named.map (Builtin.signal? false), o.rest with
    | some t, _, _ => refuse ("invalid time interval " ++ (← Program.shownArgument t))
    | none, some none, _ => do
      refuse ((← Program.shownArgument (named.getD "")) ++ ": invalid signal")
    | none, signal, time :: name :: args =>
      match Program.duration? time with
      | none => refuse ("invalid time interval " ++ (← Program.shownArgument time))
      | some duration => runFor launch o duration (signal.join.getD 15) name args
    | none, _, _ =>
      Act.put 2 "Try 'timeout --help' for more information.\n"
      Act.setStatus 125
      return none

def xargsUsage : Program.Usage :=
  ⟨"xargs", "+0d:I:L:n:P:prs:tx", [("null", '0'), ("delimiter", 'd'), ("replace", 'I'),
    ("max-lines", 'L'), ("max-args", 'n'), ("max-procs", 'P'), ("interactive", 'p'),
    ("no-run-if-empty", 'r'), ("max-chars", 's'), ("verbose", 't'), ("exit", 'x')], 1⟩

/-- The arguments that a text gives to one run after another; or a quote that is not closed. -/
def argumentGroups (o : Builtin.Options) (text : String) : Except Char (List (List String)) := do
  let words (separates : Char → Bool) (t : String) : Except Char (List String) :=
    inputWords separates (t.length + 1) t.toList none
  let count (c : Char) : Option Nat := (o.argument? c).bind String.toNat?
  let divided : Option (List String) :=
    if o.has '0' then some ((Text.splitAt '\x00' text).filter (!·.isEmpty))
    else
      (o.argument? 'd').map fun d =>
        let c := if d = "\\n" then '\n' else (d.toList.head?).getD '\n'
        let parts := Text.splitAt c text
        if parts.getLast? == some "" then parts.dropLast else parts
  if (o.argument? 'I').isSome then
    match divided with
    | some items => return items.map ([·])
    | none =>
      let lines := (Text.lines text).map fun l => String.ofList (l.toList.dropWhile isBlank)
      let items ← (lines.filter (!·.isEmpty)).mapM (words fun _ => false)
      return items
  else
    match divided, count 'L' with
    | none, some n =>
      let lines ← (Text.lines text).mapM (words isSpace)
      let lines := lines.filter (!·.isEmpty)
      let numbers := (List.range lines.length).filter (· % max n 1 == 0)
      return numbers.map fun i => ((lines.drop i).take (max n 1)).flatten
    | _, _ =>
      let items ← match divided with
        | some items => pure items
        | none => words isSpace text
      return groupsOf (max ((count 'n').getD items.length) 1) (items.length + 1) items

def runXargs (launch : Launch) (args : List String) : Act Death := do
  match Program.readOptions xargsUsage (args.length + 1) [] [] args with
  | .error e =>
    Program.refuse "xargs" e 1
    return none
  | .ok o =>
    let text := (← Act.takeText 0).toOption.getD ""
    match argumentGroups o text with
    | .error c =>
      Program.fail "xargs" ("unmatched " ++ (if c == '"' then "double" else "single") ++
        " quote; by default quotes are special to xargs unless you use the -0 option") 1
      return none
    | .ok groups =>
      let name := o.rest.headD "echo"
      let front := o.rest.drop 1
      let calls : List (List String) :=
        match o.argument? 'I' with
        | some mark => groups.map fun items => front.map fun a => a.replace mark (items.headD "")
        | none =>
          if groups.isEmpty && !o.has 'r' then [front] else groups.map (front ++ ·)
      let nothing ← Act.newOpening ⟨.nothing, 0, false, true, false⟩
      let before := (← get).descriptors
      Act.direct 0 nothing
      let stopped (reason : String) (status : Nat) : Act Nat := do
        Act.put 2 ("xargs: " ++ name ++ ": " ++ reason ++ "\n")
        return status
      let rec go : List (List String) → Nat → Act Nat
        | [], status => return status
        | args :: rest, status => do
          if o.has 't' then Act.put 2 (" ".intercalate (name :: args) ++ "\n")
          let isThere := ((← get).place? name).isSome
          match ← runOther launch "xargs" name args with
          | some (_, signal) => stopped ("terminated by signal " ++ toString signal) 125
          | none =>
            match ← Act.status with
            | 0 => go rest status
            | 255 => stopped "exited with status 255; aborting" 124
            | n => if isThere then go rest 123 else return n
      let status ← go calls 0
      modify fun s => { s with descriptors := before, status := status }
      return none

def runFind (launch : Launch) (args : List String) : Act Death := do
  let run (words : List String) : Act Bool := do
    let name := words.headD ""
    if ((← get).place? name).isNone then
      Program.fail "find" ((← Program.shownArgument name) ++ ": No such file or directory") 1
      return false
    else
      match ← launch name (words.drop 1) with
      | some (_, signal) =>
        Program.fail "find" ((← Program.shownArgument name) ++ " terminated by signal " ++
          toString signal) 1
        return false
      | none => return (← Act.status) == 0
  Program.find run args
  return none

end Evaluation

end GatedPipeline.Shell
