import GatedPipeline.Shell.Builtin.Jobs
import GatedPipeline.Shell.Complaint
import GatedPipeline.Shell.Expansion
import GatedPipeline.Shell.Layout

namespace GatedPipeline.Shell

namespace Evaluation

section

/- Evaluates a command within another one. -/
variable (inner : Command → Act Unit)

/-- Warns of documents that only the end of a text has ended. -/
def warn (c : Cursor) : Act Unit := do
  let s ← get
  if !s.isStrict then
    c.openEnded.forM fun w =>
      Act.put 2 (s.source ++ ": line " ++ toString w.1 ++ ": warning: here-document at line " ++
        toString w.2.1 ++ " delimited by end-of-file (wanted \x60" ++ w.2.2 ++ "')\n")

/-- What has been read from one place to another ends in an operator, so that the commands after it
are written on the same line. -/
def endsInOperator (before after : Cursor) : Bool :=
  let read := before.rest.take (before.rest.length - after.rest.length)
  match read.reverse.dropWhile isSpace with
  | ';' :: c :: _ => c != '\\'
  | '&' :: c :: _ => c != '\\'
  | _ => false

/-- Shows what has been read from one place to another, if that is wanted, and warns of it. -/
def tellRead (before after : Cursor) : Act Unit := do
  if (← get).hasOption "verbose" then
    Act.put 2 (String.ofList (before.rest.take (before.rest.length - after.rest.length)))
  warn after

/-- The place where a next command is read. -/
def refreshed (cursor : Cursor) : Act Cursor := do
  let s ← get
  return { cursor with
    dialect := Expansion.dialect s
    documents := []
    documentCount := s.documents.size
    openEnded := [] }

/-- Evaluates a command that has been read from one place to another; `isEnd` tells that nothing
comes after it. A command that is written anew begins on a line; the line for the next one is told.
-/
def perform (kind : TextKind) (line : Nat) (isEnd : Bool) (before after : Cursor)
    (command : Command) : Act Nat := do
  let s ← get
  set { s with documents := s.documents ++ after.documents.reverse.toArray }
  if s.hasOption "noexec" then return line
  else
    let (command, lastLine) :=
      if kind == .laidOut && !s.isStrict then
        Layout.ofCommand (s.documents ++ after.documents.reverse.toArray) line command
      else (command, if after.token == .finish then after.line else after.tokenLine)
    modify fun s => { s with isLast := isEnd, compoundLine := lastLine }
    try inner command
    catch e =>
      if e == .discarding then
        if s.isStrict || s.depth > 0 then throw .leaving
        if (← get).hasOption "posix" then
          Act.setStatus (← get).givenUpStatus
          throw .leaving
      else throw e
    return if endsInOperator before after then lastLine else lastLine + 1

/-- Evaluates the commands of a text from a place on, line by line. Those that are written anew
begin on a line. -/
def runFrom (kind : TextKind) (text : List Char) : Nat → Nat → Cursor → Act Unit
  | 0, _, _ => return ()
  | n + 1, line, cursor => do
    let tell (c : Cursor) : Act Unit := do if !(← Act.isStrict) then tellRead cursor c
    match Parser.next?.run (← refreshed cursor) with
    | .error f c =>
      tell c
      Act.refuseText kind text f
    | .ok none c => tell c
    | .ok (some command) c =>
      tell c
      let isEnd := c.rest.all isSpace && kind != .eval && kind != .file
      let line ← perform inner kind line isEnd cursor c command
      runFrom kind text n line c

/-- What comes next through the standard input: a line, or, as a plain shell reads it, all that is
there. -/
def nextInput : Act (Option String) := do
  if ← Act.isStrict then
    match ← Act.remaining 0 with
    | .error _ => return none
    | .ok (chunks, _) =>
      let now := max (← get).now ((chunks.head?.map (·.time)).getD 0)
      let size := ((chunks.takeWhile (·.time ≤ now)).map (·.text.length)).foldr (· + ·) 0
      let r ← Act.takeLine 0 Act.noDelimiter (some (max 1 (min size 8192)))
      return r.toOption.bind fun r => if r.1.isEmpty then none else some r.1
  else
    match ← Act.takeLine 0 '\n' none with
    | .error _ => return none
    | .ok (text, true) => return some (text.push '\n')
    | .ok (text, false) => return if text.isEmpty then none else some text

/-- Evaluates commands as they come in through the standard input, where `isWhole` tells that no
more of it comes. What has not been read is left to the commands. -/
def runInput : Nat → Bool → Cursor → Act Unit
  | 0, _, _ => throw .endless
  | n + 1, isWhole, cursor => do
    let more : Act Unit := do
      match ← nextInput with
      | some text =>
        runInput n false { cursor with rest := cursor.rest ++ text.toList, replaced := [] }
      | none =>
        let last := cursor.rest.getLast?
        let ends := (← Act.isStrict) || last.all fun c => c == '\n' || c == '\\'
        runInput n true { cursor with rest := cursor.rest ++ (if ends then [] else ['\n']) }
    match Parser.next?.run (← refreshed cursor) with
    | .error f c =>
      if c.rest.isEmpty && !isWhole then more
      else
        tellRead cursor c
        Act.refuseText .main cursor.rest f
    | .ok none c => if isWhole then tellRead cursor c else more
    | .ok (some command) c =>
      if (c.token == .finish || !c.openEnded.isEmpty) && !isWhole then more
      else
        tellRead cursor c
        let _ ← perform inner .main 1 false cursor c command
        runInput n isWhole c

/-- A text whose last line is ended, unless it ends in a backslash. -/
def withLastLine (text : String) : String :=
  if text.endsWith "\n" || text.endsWith "\\" then text else text ++ "\n"

def runText (kind : TextKind) (text : String) (line : Nat) : Act Unit := do
  let s ← get
  let cs := (if s.isStrict then text else withLastLine text).toList
  let start := Cursor.start (Expansion.dialect s) line s.documents.size cs
  try
    runFrom inner kind cs (cs.length + 2) line start
    modify fun t => { t with compoundLine := s.compoundLine }
  catch e =>
    /- On the way out of a text within functions their count is lost. -/
    let calls := s.calls.length
    if e == .leaving && (kind == .eval || kind == .file) && calls != 0 && !s.isStrict then
      modify fun t => { t with
        lostCount := t.lostCount.or (t.failedCalls.map (calls < ·)) }
    throw e

def runStandardInput : Act Unit := do
  let s ← get
  runInput inner 1000000 false (Cursor.start (Expansion.dialect s) 1 s.documents.size [])

def takeOver (name text : String) (passedName : String) : Act Unit := do
  let s ← get
  let refuse : Act Unit := do
    Act.put 2 (s.source ++ ": error importing function definition for \x60" ++ name ++ "'\n")
    Act.setStatus 1
    modify fun s => { s with passed := s.passed ++ [(passedName, text)] }
  let cs := (withLastLine (name ++ " " ++ text)).toList
  match Parser.next?.run (Cursor.start (Expansion.dialect s) 0 s.documents.size cs) with
  | .error f _ =>
    modify fun t => { t with source := s.source ++ ": " ++ name }
    Act.protect (Act.refuseText .file cs f) (modify fun t => { t with source := s.source })
    refuse
  | .ok (some (.function line name body)) c =>
    set { s with
      documents := s.documents ++ c.documents.reverse.toArray
      functions := s.functions.insert name ⟨body, s.functionSource, line, true⟩ }
  | .ok _ _ =>
    Act.put 2 (s.source ++ ": warning: " ++ name ++ ": ignoring function definition attempt\n")
    refuse

/-- Does what is to be done for a signal or another event; the status stays what it is. -/
def runTrap (name : String) : Act Unit := do
  let s ← get
  match s.traps.get? name with
  | none => return ()
  | some text =>
    if !text.isEmpty then
      let isEvent := Builtin.eventNames.contains name
      modify fun s => { s with
        isTrapping := s.isTrapping || isEvent
        keepsCurrent := true
        traceDepth := if s.isStrict then 0 else s.traceDepth + 1 }
      Act.protect (runText inner .eval text (if name = "EXIT" then 1 else s.line))
        (modify fun t => { t with
          isTrapping := s.isTrapping
          keepsCurrent := s.keepsCurrent
          traceDepth := s.traceDepth })
      modify fun t => { t with
        status := s.status, line := s.line, stageStatuses := s.stageStatuses }

def isStopping (signal : Nat) : Bool := 19 ≤ signal && signal ≤ 22

/-- Sees to the children that have ended. A plain shell does not count them. -/
def checkEnded : Act Unit := do
  let s ← get
  match s.ended with
  | none => return ()
  | some 0 => return ()
  | some n =>
    set { s with ended := none }
    (List.range (if s.isStrict then 1 else n)).forM fun _ => runTrap inner "CHLD"
    modify fun t => { t with ended := some 0 }

def checkSignals : Act Unit := do
  checkEnded inner
  let s ← get
  if !s.world.signals.isEmpty then
    (← Act.signalsUntil s.now).forM fun (time, signal) => do
      Act.takeSignal time signal
      let usual : Act Unit := do
        if isStopping signal then Act.waitUntil maxTime
        else if !isHarmless signal then throw (.killed signal)
      if signal == 9 then throw (.killed 9)
      else
        match (← get).traps.get? (signalName signal) with
        | some _ => runTrap inner (signalName signal)
        | none => usual

/-- What comes after a command whose failure counts. -/
def checkFailure : Act Unit := do
  checkSignals inner
  let s ← get
  if s.status != 0 && !s.isTested then
    if !s.isStrict && !s.isTrapping && (!s.isInFunction || s.hasOption "errtrace") then
      runTrap inner "ERR"
    if s.hasOption "errexit" then
      modify fun s => { s with failedCalls := some s.calls.length }
      throw .leaving

/-- What comes after a command that is no pipeline of several. -/
def finish : Act Unit := do
  modify fun s => if s.isStrict then s else { s with stageStatuses := [s.status] }
  checkFailure inner

def runDebug : Act Unit := do
  let s ← get
  if !s.isStrict && !s.isTrapping && (!s.isInFunction || s.hasOption "functrace") then
    runTrap inner "DEBUG"

/-- Does what is to be done at the end of a process. That is done only once, and leaves the status
unless it leaves with another one. -/
def farewell : Act Unit := do
  let s ← get
  match s.traps.get? "EXIT" with
  | none => return ()
  | some text =>
    set { s with
      isTested := false
      keepsCurrent := true
      traps := s.traps.erase "EXIT"
      line := 1 }
    runText inner .eval text 1
    Act.setStatus s.status

/-- Evaluates what a process does until it ends, and what it does at its end. -/
def untilEnd (act : Act Unit) : Act Unit := do
  let ending : Option Interrupt ←
    try
      act
      pure none
    catch e => pure (some e)
  match ending with
  | some .endless => throw .endless
  | some (.killed n) =>
    if !(← Act.isStrict) && n != 9 then
      try farewell inner
      catch _ => pure ()
    throw (.killed n)
  | _ =>
    try farewell inner
    catch e =>
      match e with
      | .killed n => throw (.killed n)
      | .endless => throw .endless
      | _ => pure ()

end

end Evaluation

end GatedPipeline.Shell
