import GatedPipeline.Shell.Builtin.Settings
import GatedPipeline.Shell.Process

namespace GatedPipeline.Shell.Builtin

/-- The jobs that have not ended, the latest first. -/
def running (s : State) : List Job :=
  ((s.inherited ++ s.jobs).filter fun j => s.now < j.outcome.finish && j.number != 0).reverse

/-- The jobs that can be meant. One that ends right now is still known. -/
def known (s : State) : List Job :=
  if s.isStrict then (s.jobs.filter fun j => !j.isReaped && j.number != 0).reverse
  else ((s.inherited ++ s.jobs).filter fun j =>
    s.now ≤ j.outcome.finish && !j.isReaped && j.number != 0).reverse

def jobMark (jobs : List Job) (j : Job) : String :=
  if (jobs.head?).any (·.process == j.process) then "+"
  else if ((jobs.drop 1).head?).any (·.process == j.process) then "-"
  else " "

def jobState (s : State) (j : Job) : String :=
  if s.now < j.outcome.finish then "Running"
  else
    match j.outcome.signal with
    | some n => signalDescription n
    | none =>
      if j.outcome.status = 0 then "Done"
      else if s.isStrict then "Done(" ++ toString j.outcome.status ++ ")"
      else "Exit " ++ toString j.outcome.status

def listedJobs (s : State) : List Job :=
  if s.isStrict then (s.jobs.filter fun j => !j.isReaped).reverse else running s

/-- The job that is meant, or why there is none. -/
def job? (s : State) (spec : String) : Except String Job :=
  let jobs := known s
  let none' : Except String Job :=
    .error (if s.isStrict then (if ["%", "%%", "%+", "%-"].contains spec then "No current job"
      else "No such job: " ++ spec) else spec ++ ": no such job")
  let one (j : Option Job) : Except String Job :=
    match j with
    | some j => .ok j
    | none => none'
  match spec.toList.drop 1 with
  | [] => one jobs.head?
  | ['%'] => one jobs.head?
  | ['+'] => one jobs.head?
  | ['-'] => one (((jobs.drop 1).head?).or jobs.head?)
  | c :: cs =>
    match (String.ofList (c :: cs)).toNat? with
    | some n => one (jobs.find? (·.number == n))
    | none =>
      let isInside := c == '?'
      let text := String.ofList (if isInside then cs else c :: cs)
      let found := jobs.filter fun j =>
        if isInside then (j.text.splitOn text).length > 1 else j.text.startsWith text
      match (if s.isStrict then [] else found) with
      | [j] => .ok j
      | [] => none'
      | _ => .error (text ++ ": ambiguous job spec")

def jobLine (s : State) (all : List Job) (withProcess : Bool) (j : Job) : String :=
  let number := "[" ++ toString j.number ++ "]"
  if s.isStrict then
    number ++ " " ++ jobMark all j ++ " " ++
      (if withProcess then toString j.process ++ " " else "") ++ widened 27 (jobState s j) ++ "\n"
  else
    number ++ jobMark all j ++ "  " ++ (if withProcess then toString j.process ++ " " else "") ++
      widened 24 (jobState s j) ++ j.text ++
      (if s.now < j.outcome.finish then " &" else "") ++ "\n"

def reap (which : Job → Bool) : Act Unit :=
  modify fun s => { s with
    jobs := s.jobs.map fun j => if which j then { j with isReaped := true } else j }

def jobs (args : List String) : Act Unit := do
  Act.hear
  let s ← get
  withOptions "jobs" (if s.isStrict then "lp" else "lnprsx") args fun o => do
    Act.setStatus 0
    let all := listedJobs s
    let show' (js : List Job) : Act Unit := do
      let js := if o.has 's' then [] else js
      say "jobs" (String.join (js.map fun j =>
        if o.has 'p' then toString j.process ++ "\n" else jobLine s all (o.has 'l') j))
      if s.isStrict then
        reap fun j => js.any (·.process == j.process) && j.outcome.finish ≤ s.now
    if o.rest.isEmpty then show' (if s.isStrict then all else all.reverse)
    else
      o.rest.forM fun spec => do
        match job? s (if spec.startsWith "%" then spec else "%" ++ spec) with
        | .ok j => show' [j]
        | .error e =>
          if s.isStrict then refuse "jobs" e 2
          else
            if (e.splitOn "ambiguous").length > 1 then Act.complain ("jobs: " ++ e)
            Act.fault ("jobs: " ++ spec ++ ": no such job") 1

/-- Tells that a signal has ended a process. A usual one, or one for which the shell itself does
something, is no complaint, and is told only if the process was not in the background. -/
def tellEnd (isAwaited : Bool) (process : Nat) (text : String) (signal : Nat) : Act Unit := do
  let s ← get
  if signal != 2 && signal != 13 && (s.isStrict || !s.isSubstituting) then
    let isUsual := signal == 15 || (s.traps.get? (signalName signal)).isSome
    if s.isStrict || (isUsual && isAwaited) then Act.put 2 (signalDescription signal ++ "\n")
    else if !isUsual then
      Act.complain (toString process ++ " " ++ widened 24 (signalDescription signal) ++ text)

/-- Waits for a job; its end is taken for one's own. -/
def waitJob (j : Job) : Act Bool := do
  match ← Act.waitFor j.outcome.finish with
  | some signal =>
    Act.setStatus (128 + signal)
    return false
  | none =>
    let s ← get
    let isNew := !j.isReaped && (if s.isStrict then !j.isNoticed else s.now ≤ j.outcome.finish)
    if isNew then j.outcome.signal.forM fun n => tellEnd false j.process j.text n
    reap (·.process == j.process)
    Act.setStatus j.outcome.status
    return true

def waitAll : Act Unit := do
  let s ← get
  match ← Act.waitFor ((s.jobs.map (·.outcome.finish)).foldl max s.now) with
  | some signal => Act.setStatus (if s.isStrict then 0 else 128 + signal)
  | none =>
    if !s.isStrict then
      s.jobs.forM fun j => do
        if !j.isReaped then j.outcome.signal.forM fun n => tellEnd false j.process j.text n
    reap fun _ => true
    Act.setStatus 0

def wait (args : List String) : Act Unit := do
  Act.hear
  let strict ← Act.isStrict
  withOptions "wait" (if strict then "" else "fnp:") args fun o => do
    let record (j : Option Job) : Act Unit := do
      match o.argument? 'p' with
      | some name =>
        let status ← Act.status
        match j with
        | some j => store name (toString j.process)
        | none => modify fun s => s.forgetVariable name
        Act.setStatus status
      | none => return ()
    let named (spec : String) : Act (Option Job) := do
      let s ← get
      if spec.startsWith "%" then
        match job? s spec with
        | .ok j => return some j
        | .error e =>
          if strict then refuse "wait" e 2 else Act.fault ("wait: " ++ e) 127
          return none
      else
        match plainNumber? spec with
        | some n =>
          match s.jobs.find? (·.process == n) with
          | some j => return some j
          | none =>
            if strict then Act.setStatus 127
            else Act.fault ("wait: pid " ++ spec ++ " is not a child of this shell") 127
            return none
        | none =>
          if strict then refuse "wait" ("Illegal number: " ++ spec) 2
          else Act.fault ("wait: \x60" ++ spec ++ "': not a pid or valid job spec") 1
          return none
    if o.has 'n' then
      let s ← get
      let js ← if o.rest.isEmpty then pure (s.jobs.filter fun j => !j.isReaped)
        else pure ((← o.rest.mapM named).filterMap id)
      let first := js.foldl (fun (best : Option Job) j =>
        match best with
        | some b => if j.outcome.finish < b.outcome.finish then some j else some b
        | none => some j) none
      match first with
      | some j =>
        let _ ← waitJob j
        record (some j)
      | none =>
        Act.setStatus 127
        record none
    else if o.rest.isEmpty then waitAll
    else
      let rec go : List String → Act Unit
        | [] => return ()
        | spec :: rest => do
          match ← named spec with
          | some j =>
            if ← waitJob j then
              if rest.isEmpty then record (some j)
              go rest
          | none => go rest
      go o.rest

/-- The number of a signal that is written in one of its ways. -/
def signal? (isStrict : Bool) (text : String) : Option Nat :=
  match text.toNat? with
  | some n => if n ≤ 64 then some n else none
  | none =>
    let name := Quoting.upper text
    let name :=
      if name.startsWith "SIG" && !isStrict then String.ofList (name.toList.drop 3) else name
    if name = "EXIT" then some 0
    else
      match signalNames.lookup name with
      | some n => some n
      | none => ((List.range 65).drop 34).find? fun n => signalName n == name

def signalTable : String :=
  let numbers := (List.range 65).drop 1 |>.filter fun n => n != 32 && n != 33
  String.join (numbers.mapIdx fun i n =>
    (if n < 10 then " " else "") ++ toString n ++ ") SIG" ++ signalName n ++
      (if i % 5 == 4 then "\n" else "\t")) ++ "\n"

/-- Names the signals whose numbers are given, and numbers those whose names are given. -/
def nameSignals (args : List String) : Act Unit := do
  let strict ← Act.isStrict
  Act.setStatus 0
  if args.isEmpty then
    if strict then
      say "kill" (String.join (((List.range 65).filter fun n => n != 32 && n != 33).map fun n =>
        (if n = 0 then "0" else signalName n) ++ "\n"))
    else say "kill" signalTable
  else
    args.forM fun a => do
      match a.toNat? with
      | some n =>
        let n := if n > 128 then n - 128 else n
        if n > 64 then
          if strict then refuse "kill" ("invalid signal number or exit status: " ++ a) 2
          else Act.fault ("kill: " ++ a ++ ": invalid signal specification") 1
        else say "kill" ((if n = 0 then (if strict then "0" else "EXIT") else signalName n) ++ "\n")
      | none =>
        if strict then refuse "kill" ("Illegal number: " ++ a) 2
        else
          match signal? false a with
          | some n => say "kill" (toString n ++ "\n")
          | none => Act.fault ("kill: " ++ a ++ ": invalid signal specification") 1

def killOne (signal : Nat) (target : String) : Act Bool := do
  let s ← get
  if target.startsWith "%" then
    match job? s target with
    | .ok j =>
      if s.isStrict then
        Act.complain "kill: No such process\n"
        return false
      else
        let _ ← Act.send j.process signal
        return true
    | .error e =>
      if s.isStrict then refuse "kill" e 2
      else Act.fault ("kill: " ++ e) 1
      return false
  else
    match number? target with
    | some n =>
      let hit ← if n > 0 then Act.send n.toNat signal
        else if n == 0 then do
          let others := (s.jobs ++ s.inherited).map (·.process) ++ s.ancestors
          others.forM fun p => do let _ ← Act.send p signal
          Act.send s.process signal
        else pure false
      if !hit then
        if s.isStrict then Act.complain "kill: No such process\n"
        else Act.complain ("kill: (" ++ target ++ ") - No such process")
        Act.setStatus 1
      return hit
    | none =>
      if s.isStrict then refuse "kill" ("Illegal number: " ++ target) 2
      else if target.isEmpty then Act.fault "kill: \x60': not a pid or valid job spec" 1
      else Act.fault ("kill: " ++ target ++ ": arguments must be process or job IDs") 1
      return false

def kill (args : List String) : Act Unit := do
  Act.hear
  let strict ← Act.isStrict
  let usage : Act Unit :=
    if strict then
      refuse "kill" ("Usage: kill [-s sigspec | -signum | -sigspec] [pid | job]... or\n" ++
        "kill -l [exitstatus]") 2
    else showUsage "kill"
  let toAll (signal : Nat) (targets : List String) : Act Unit := do
    match operands targets with
    | [] => usage
    | targets =>
      Act.setStatus 0
      let hits ← targets.mapM (killOne signal)
      Act.setStatus (if (if strict then hits.all id else hits.any id) then 0 else 1)
  let byName (text shown : String) (targets : List String) : Act Unit := do
    match signal? strict text with
    | some n => toAll n targets
    | none =>
      if strict then refuse "kill" shown 2
      else Act.fault ("kill: " ++ text ++ ": invalid signal specification") 1
  match args with
  | [] => usage
  | "-l" :: rest => nameSignals rest
  | "-L" :: rest => nameSignals rest
  | "--" :: rest => toAll 15 rest
  | a :: rest =>
    match a.toList with
    | ['-', 's'] =>
      match rest with
      | [] =>
        if strict then refuse "kill" "No arg for -s option" 2
        else Act.fault "kill: -s: option requires an argument" 1
      | name :: targets => byName name ("invalid signal number or name: " ++ name) targets
    | ['-', 'n'] =>
      if strict then refuseOption "kill" "-n"
      else
        match rest with
        | [] => Act.fault "kill: -n: option requires an argument" 1
        | name :: targets => byName name "" targets
    | '-' :: c :: cs =>
      byName (String.ofList (c :: cs)) ("Illegal option -" ++ String.singleton c) rest
    | _ => toAll 15 args

def eventNames : List String := ["DEBUG", "ERR", "RETURN"]

/-- The name under which it is kept what is done for a signal or another event. -/
def event? (isStrict : Bool) (text : String) : Option String :=
  let name := Quoting.upper text
  if !isStrict && eventNames.contains name then some name
  else (signal? isStrict text).map fun n => if n = 0 then "EXIT" else signalName n

def trapLine (isStrict isPlain : Bool) (name text : String) : String :=
  let shown := if name = "EXIT" || eventNames.contains name || isPlain then name else "SIG" ++ name
  let quoted := if isStrict then Quoting.plain text else Quoting.single text
  "trap -- " ++ quoted ++ " " ++ shown ++ "\n"

def allEvents : List String := "EXIT" :: (List.range 65).map signalName ++ eventNames

def setTrap (name : String) (text : Option String) : Act Unit :=
  modify fun s => { s with
    outerTraps := []
    traps := match text with
      | some t => s.traps.insert name t
      | none => s.traps.erase name }

def trap (args : List String) : Act Unit := do
  let s ← get
  let strict := s.isStrict
  let bad (spec : String) : Act Unit := do
    if strict then
      Act.put 2 ("trap: " ++ spec ++ ": bad trap\n")
      Act.setStatus 1
    else Act.fault ("trap: " ++ spec ++ ": invalid signal specification") 1
  let all (names : List String) : Act Unit :=
    say "trap" (String.join (names.filterMap fun n =>
      ((s.traps.get? n).or (s.outerTraps.get? n)).map
        (trapLine strict (strict || s.hasOption "posix") n)))
  /- A plain shell gives up at the first wrong one. -/
  let rec apply (text : Option String) : List String → Act Unit
    | [] => return ()
    | spec :: rest => do
      match event? strict spec with
      | some name =>
        setTrap name text
        apply text rest
      | none =>
        bad spec
        if !strict then apply text rest
  withOptions "trap" (if strict then "" else "lp") args fun o => do
    Act.setStatus 0
    if o.has 'l' then say "trap" signalTable
    else if o.has 'p' then
      if o.rest.isEmpty then all allEvents
      else
        o.rest.forM fun spec => do
          match event? strict spec with
          | some name => all [name]
          | none => bad spec
    else
      match o.rest with
      | [] => all allEvents
      | [a] =>
        if strict || (event? strict a).isSome then apply none [a]
        else if a = "-" then showUsage "trap"
        else showUsage "trap"
      | a :: specs =>
        if strict && (event? true a).isSome && a.toList.all Char.isDigit then
          apply none (a :: specs)
        else apply (if a = "-" then none else some a) specs

def disown (args : List String) : Act Unit := do
  withOptions "disown" "har" args fun o => do
    let s ← get
    Act.setStatus 0
    let forget (which : Job → Bool) : Act Unit :=
      modify fun s => { s with
        jobs := s.jobs.map fun j =>
          if which j then { j with number := 0, isReaped := true } else j }
    if o.has 'h' then return ()
    else if o.has 'a' || o.has 'r' then forget fun _ => true
    else if o.rest.isEmpty then
      match (running s).head? with
      | some j => forget (·.process == j.process)
      | none => Act.fault "disown: current: no such job" 1
    else
      o.rest.forM fun spec => do
        let found := if spec.startsWith "%" then (job? s spec).toOption
          else (s.jobs.find? fun j => some j.process == spec.toNat?)
        match found with
        | some j => forget (·.process == j.process)
        | none => Act.fault ("disown: " ++ spec ++ ": no such job") 1

/-- Moves a job between foreground and background, which only a shell with job control does. -/
def moveJob (name : String) (args : List String) : Act Unit := do
  if ← Act.isStrict then
    refuse name (match args with
      | [] => "No current job"
      | a :: _ => if a.startsWith "%" then "No such job: " ++ a else "No such job: " ++ a) 2
  else Act.fault (name ++ ": no job control") 1

def maskDigits (n : Nat) : String :=
  let ds := String.ofList (Nat.toDigits 8 n)
  String.ofList (List.replicate (4 - ds.length) '0') ++ ds

def maskLetters (mask : Nat) : String :=
  let part (shift : Nat) : String :=
    let allowed := 7 - mask / shift % 8
    (if allowed / 4 % 2 == 1 then "r" else "") ++ (if allowed / 2 % 2 == 1 then "w" else "") ++
      (if allowed % 2 == 1 then "x" else "")
  "u=" ++ part 64 ++ ",g=" ++ part 8 ++ ",o=" ++ part 1

def symbolicMask (mask : Nat) (text : String) : Except String Nat :=
  let one (allowed : Except String Nat) (clause : List Char) : Except String Nat :=
    match allowed with
    | .error e => .error e
    | .ok allowed =>
      let who := clause.takeWhile "ugoa".toList.contains
      let shifts : List Nat := if who.isEmpty || who.contains 'a' then [64, 8, 1]
        else (if who.contains 'u' then [64] else []) ++ (if who.contains 'g' then [8] else []) ++
          (if who.contains 'o' then [1] else [])
      match clause.drop who.length with
      | [] => .error "\x60': invalid symbolic mode operator"
      | o :: ps =>
        if !"+-=".toList.contains o then
          .error ("\x60" ++ String.singleton o ++ "': invalid symbolic mode operator")
        else
          match ps.find? fun p => !"rwxXst".toList.contains p with
          | some p => .error ("\x60" ++ String.singleton p ++ "': invalid symbolic mode character")
          | none =>
            let bits := (if ps.contains 'r' then 4 else 0) + (if ps.contains 'w' then 2 else 0) +
              (if ps.contains 'x' then 1 else 0)
            .ok (shifts.foldl (fun allowed shift =>
              let old := allowed / shift % 8
              let new := if o == '+' then old ||| bits else if o == '-' then old - (old &&& bits)
                else bits
              allowed - old * shift + new * shift) allowed)
  match (text.toList.splitOn ',').foldl one (.ok (511 - mask)) with
  | .ok allowed => .ok (511 - allowed)
  | .error e => .error e

def umask (args : List String) : Act Unit := do
  let s ← get
  withOptions "umask" (if s.isStrict then "S" else "pS") args fun o => do
    Act.setStatus 0
    match o.rest with
    | [] =>
      let front := if o.has 'p' then "umask " ++ (if o.has 'S' then "-S " else "") else ""
      say "umask" (front ++ (if o.has 'S' then maskLetters s.mask else maskDigits s.mask) ++ "\n")
    | a :: _ =>
      if a.toList.head?.any Char.isDigit then
        if a.toList.all isOctal && octalNumber a.toList < 512 then
          modify fun s => { s with mask := octalNumber a.toList }
        else if s.isStrict then refuse "umask" ("Illegal number: " ++ a) 2
        else Act.fault ("umask: " ++ a ++ ": octal number out of range") 1
      else
        match symbolicMask s.mask a with
        | .ok m =>
          modify fun s => { s with mask := m }
          if o.has 'S' && !s.isStrict then say "umask" (maskLetters m ++ "\n")
        | .error e =>
          if s.isStrict then refuse "umask" ("Illegal mode: " ++ a) 2
          else Act.fault ("umask: " ++ e) 1

/-- Limits are taken, and not kept. -/
def ulimit (args : List String) : Act Unit := do
  let known := "SHabcdefiklmnpqrstuvxPRT"
  let strict ← Act.isStrict
  withOptions "ulimit" (if strict then "HSatfdsmcnlpvwr" else known) args fun o => do
    Act.setStatus 0
    match o.rest with
    | [] => say "ulimit" (if o.has 'c' then "0\n" else "unlimited\n")
    | a :: _ =>
      if a != "unlimited" && a.toNat?.isNone && a != "hard" && a != "soft" then
        if strict then refuse "ulimit" "bad number" 2
        else Act.fault ("ulimit: " ++ a ++ ": invalid number") 1

def times (args : List String) : Act Unit := do
  let go : Act Unit := do
    Act.setStatus 0
    let line := if ← Act.isStrict then "0m0.000000s 0m0.000000s\n" else "0m0.000s 0m0.000s\n"
    say "times" (line ++ line)
  if ← Act.isStrict then go else withOptions "times" "" args fun _ => go

end GatedPipeline.Shell.Builtin
