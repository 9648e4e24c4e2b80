import GatedPipeline.Files
import GatedPipeline.Shell.Completion
import GatedPipeline.Shell.Cursor
import GatedPipeline.Shell.Pattern
import GatedPipeline.Shell.Printer
import GatedPipeline.Shell.Variable

namespace GatedPipeline.Shell

structure Chunk where
  time : Nat
  text : String
deriving DecidableEq, Repr

/-- What has been written to a pipe: what waits to be read, from the oldest on, and what came after
that, from the latest on. `heldUntil` tells until when it can be written to. -/
structure Pipe where
  unread : List Chunk
  latest : List Chunk
  writes : Nat
  heldUntil : Nat
deriving Repr

namespace Pipe

def empty : Pipe := ⟨[], [], 0, 0⟩

def holding (time : Nat) (text : String) : Pipe := ⟨[⟨time, text⟩], [], 0, time⟩

def add (p : Pipe) (c : Chunk) : Pipe := { p with latest := c :: p.latest, writes := p.writes + 1 }

/-- All that has been written and not been read, in the order of time. -/
def chunks (p : Pipe) : List Chunk :=
  p.unread ++ p.latest.reverse.mergeSort fun a b => a.time ≤ b.time

end Pipe

inductive Target where
  | pipe (number : Nat)
  | file (path : String)
  | directory (path : String)
  | nothing
  /-- Zero bytes without end; perhaps there is no space for what is written. -/
  | zeros (isFull : Bool)
deriving DecidableEq, Repr

/-- A file or a pipe as it has been opened. -/
structure Opening where
  target : Target
  offset : Nat
  appends : Bool
  reads : Bool
  writes : Bool
deriving Repr

/-- How a command that runs beside a shell is talked to: its process and that of the shell, the pipe
that it reads and the one that it writes, and how many pieces of what it writes are there already.
-/
structure Dialogue where
  process : Nat
  owner : Nat
  input : Nat
  output : Nat
  told : Nat
deriving Repr

/-- What all shells share. The pipes 0 and 1 are the output and the messages of the step. Times are
in milliseconds. -/
structure World where
  files : Files
  openings : Array Opening
  pipes : Array Pipe
  signals : List (Nat × Nat × Nat)
  nextProcess : Nat
  limit : Option Nat
  dialogues : List Dialogue
deriving Repr

/-- Why the evaluation does not simply go on. -/
inductive Interrupt where
  | breaking (loops : Nat)
  | continuing (loops : Nat)
  | returning
  | leaving
  | killed (signal : Nat)
  | discarding
  | endless
deriving DecidableEq, Repr

/-- What a command in the background has done: when it ended and how, until when it holds which
pipes, what it wrote to them, which signals it sent, and what it changed in the files. -/
structure JobOutcome where
  finish : Nat
  status : Nat
  signal : Option Nat
  written : List (Nat × Chunk)
  held : List (Nat × Nat)
  sent : List (Nat × Nat × Nat)
  before : Files
  after : Files

/-- A command in the background. A signal is sent to it by doing it again, and so is what it reads
in the meantime. -/
structure Job where
  number : Nat
  process : Nat
  text : String
  signals : List (Nat × Nat × Nat)
  isSettled : Bool
  isReaped : Bool
  isNoticed : Bool
  outcome : JobOutcome
  heard : Pipe
  redo : Pipe → List (Nat × Nat × Nat) → JobOutcome

/-- The command beside the shell that it keeps in mind: the name of its descriptors, and those as
far as they are open: the one to read from, and the one to write to. -/
structure Coprocess where
  process : Nat
  name : String
  reading : Option Nat
  writing : Option Nat
deriving Repr

namespace Coprocess

def descriptors (c : Coprocess) : List Nat := c.reading.toList ++ c.writing.toList

def value (c : Coprocess) : Value :=
  Value.numbered ([c.reading, c.writing].map fun d => (d.map toString).getD "-1")

end Coprocess

/-- A function as it has been defined. -/
structure Function where
  body : Command
  source : String
  line : Nat
  isExported : Bool
deriving Repr

/-- Variables that hide others: those of a call, or those that are set for one command only. -/
structure Scope where
  isCall : Bool
  function : String
  source : String
  line : Nat
  options : Option (List String)
  bindings : Bindings Variable
deriving Repr

/-- A process in which a shell evaluates commands. A strict one is a plain shell: it has fewer
words, and errors of its own commands end it. -/
structure State where
  name : String
  isStrict : Bool
  options : List String
  extras : List String
  bindings : Bindings Variable
  /-- What came with the environment under names that no variable has. It is handed on. -/
  passed : List (String × String)
  scopes : List Scope
  parameters : List String
  functions : Bindings Function
  aliases : Bindings String
  disabled : List String
  completions : List (String × Completion)
  found : Bindings (String × Nat)
  directory : String
  directoryStack : List String
  descriptors : List (Nat × Nat)
  substituted : List Nat
  sinks : List (Nat × String)
  held : List Nat
  documents : Array Document
  status : Nat
  innerStatus : Option Nat
  stageStatuses : List Nat
  line : Nat
  /-- The line that counts for commands without one of their own. -/
  compoundLine : Nat
  source : String
  functionSource : String
  caller : String
  loopDepth : Nat
  isSourced : Bool
  depth : Nat
  process : Nat
  shell : Nat
  ancestors : List Nat
  isReplaced : Bool
  /-- The command is the last one of the process, which a program may replace. -/
  isLast : Bool
  /-- What is done for signals and other events; nothing is done for an empty text. -/
  traps : Bindings String
  /-- What the parent does at events. It is listed for as long as nothing is set here. -/
  outerTraps : Bindings String
  isTrapping : Bool
  current : Option Command
  keepsCurrent : Bool
  jobs : List Job
  /-- The jobs of the processes around. Those without a number are not listed. -/
  inherited : List Job
  jobCount : Nat
  lastJob : Option Nat
  coprocess : Option Coprocess
  /-- How many children have ended since that was seen to; none while it is. -/
  ended : Option Nat
  origin : String
  reserved : List Nat
  lastArgument : String
  /-- The output of the shell stands for a word; it does not tell how its children have ended. -/
  isSubstituting : Bool
  handed : Option (List (String × String))
  mask : Nat
  optionPlace : Nat
  isTested : Bool
  lostStatus : Nat
  failedCalls : Option Nat
  /-- The shell has lost count of its functions, and perhaps of their sources, on leaving. -/
  lostCount : Option Bool
  traceDepth : Nat
  /-- How texts are read for as long as the variables name no known way. -/
  lastCharset : Charset
  ignoresNames : Bool
  hasLostOutput : Bool
  warnings : List String
  random : Nat
  now : Nat
  world : World

abbrev Act := EStateM Interrupt State

namespace State

def mainProcess : Nat := 4242

def hasExtra (name : String) (s : State) : Bool := s.extras.contains name

/-- Where a name is bound, if it is. -/
def lookup? (name : String) (s : State) : Option Variable :=
  match s.scopes.findSome? fun scope => scope.bindings.get? name with
  | some v => some v
  | none => s.bindings.get? name

/-- The name of the variable that makes a shell keep to the standard for as long as it is set. -/
def standardName : String := "POSIXLY_CORRECT"

def hasOption (name : String) (s : State) : Bool :=
  if name = "posix" then
    !s.isStrict && (s.lookup? standardName).any (·.value != .missing)
  else s.options.contains name

def noteStandard (isOn : Bool) (s : State) : State :=
  let tied := ["expand_aliases", "shift_verbose"]
  let others := s.extras.filter (!tied.contains ·)
  if s.isStrict then s
  else if isOn then
    let missing := ["inherit_errexit", "interactive_comments", "sourcepath"].filter
      (!others.contains ·)
    { s with extras := others ++ tied ++ missing }
  else { s with extras := others }

/-- The text of a plain variable; empty if it has none. -/
def setting (name : String) (s : State) : String :=
  ((s.lookup? name).bind (·.value.plain?)).getD ""

/-- How texts are read according to a name for a language and its signs. -/
def charsetNamed? (name : String) : Option Charset :=
  if name = "C" || name = "POSIX" then some .bytes
  else
    match (name.toList.takeWhile (· != '@')).splitOn '.' with
    | [['C'], codes] =>
      let codes := (codes.filter Char.isAlphanum).map Char.toLower
      if String.ofList codes = "utf8" then some .unicode else none
    | _ => none

/-- How texts are read: one variable decides for everything, the next one for characters, the last
one where nothing else is said. -/
def charset (s : State) : Charset :=
  let all := s.setting "LC_ALL"
  let own := s.setting "LC_CTYPE"
  let usual := s.setting "LANG"
  if s.isStrict then .bytes
  else if !all.isEmpty then (charsetNamed? all).getD s.lastCharset
  else
    let usual := if usual.isEmpty then .bytes else (charsetNamed? usual).getD s.lastCharset
    if own.isEmpty then usual else (charsetNamed? own).getD usual

def localeNames : List String :=
  ["LC_ALL", "LC_CTYPE", "LC_COLLATE", "LC_MESSAGES", "LC_NUMERIC", "LC_TIME"]

/-- Takes note of a way to read texts, and of a name for one that is not known. -/
def noteLocale (name reason : String) (s : State) : State :=
  let value := s.setting name
  let counts := localeNames.contains name && (name = "LC_ALL" || (s.setting "LC_ALL").isEmpty)
  let warning := "warning: setlocale: " ++ name ++ ": cannot change locale (" ++ value ++ ")" ++
    reason
  { s with
    lastCharset := s.charset
    warnings := if counts && !value.isEmpty && (charsetNamed? value).isNone then
      s.warnings ++ [warning] else s.warnings }

def noteChange (name : String) (s : State) : State :=
  if name = standardName then s.noteStandard (s.hasOption "posix")
  else if (name = "LANG" || localeNames.contains name) && !s.isStrict then
    s.noteLocale name ": No such file or directory"
  else if name = "GLOBIGNORE" && !s.isStrict then
    let others := s.extras.filter (· != "dotglob")
    match (s.lookup? name).bind (·.value.plain?) with
    | none => { s with extras := others }
    | some t =>
      if t.isEmpty then s else { s with extras := "dotglob" :: others, ignoresNames := true }
  else if name = "BASH_ARGV0" && !s.isStrict then
    let shown := ((s.lookup? name).bind (·.value.plain?)).getD s.name
    { s with name := shown, source := if s.source = s.name then shown else s.source }
  else s

def notedNames : List String :=
  [standardName, "BASH_ARGV0", "GLOBIGNORE", "LANG"] ++ localeNames

/-- Leaves the innermost scope. Where it has hidden a variable, the outer one counts again. -/
def leaveScope (s : State) : State :=
  match s.scopes with
  | [] => s
  | scope :: rest =>
    let names := notedNames.filter fun n => (scope.bindings.get? n).isSome
    names.foldl (fun s n => if localeNames.contains n then s.noteLocale n "" else s.noteChange n)
      { s with scopes := rest }

/-- Changes a variable where it is bound; one that is not becomes a global one. -/
def modifyVariable (name : String) (f : Variable → Variable) (s : State) : State :=
  let rec go : List Scope → Option (List Scope)
    | [] => none
    | scope :: rest =>
      match scope.bindings.get? name with
      | some v => some ({ scope with bindings := scope.bindings.insert name (f v) } :: rest)
      | none => (go rest).map (scope :: ·)
  noteChange name <| match go s.scopes with
    | some scopes => { s with scopes := scopes }
    | none =>
      { s with bindings :=
          s.bindings.insert name (f ((s.bindings.get? name).getD Variable.empty)) }

/-- Changes a variable of the function that is being called; outside of functions a global one. -/
def modifyLocal (name : String) (f : Variable → Variable) (s : State) : State :=
  let rec go : List Scope → Option (List Scope)
    | [] => none
    | scope :: rest =>
      if scope.isCall then
        let v := (scope.bindings.get? name).getD Variable.empty
        some ({ scope with bindings := scope.bindings.insert name (f v) } :: rest)
      else (go rest).map (scope :: ·)
  noteChange name <| match go s.scopes with
    | some scopes => { s with scopes := scopes }
    | none =>
      { s with bindings :=
          s.bindings.insert name (f ((s.bindings.get? name).getD Variable.empty)) }

def modifyGlobal (name : String) (f : Variable → Variable) (s : State) : State :=
  noteChange name { s with bindings := s.bindings.insert name (f ((s.bindings.get? name).getD Variable.empty)) }

def isInFunction (s : State) : Bool := s.scopes.any (·.isCall)

def local? (name : String) (s : State) : Option Variable :=
  (s.scopes.find? (·.isCall)).bind fun scope => scope.bindings.get? name

/-- Forgets a variable: one of a called function stays hidden while the function is called. -/
def forgetVariable (name : String) (s : State) : State :=
  let rec go (isInnermost : Bool) : List Scope → Option (List Scope)
    | [] => none
    | scope :: rest =>
      if (scope.bindings.get? name).isSome then
        let bindings :=
          if scope.isCall && isInnermost then scope.bindings.insert name Variable.empty
          else scope.bindings.erase name
        some ({ scope with bindings := bindings } :: rest)
      else (go (isInnermost && !scope.isCall) rest).map (scope :: ·)
  noteChange name <| match go true s.scopes with
    | some scopes => { s with scopes := scopes }
    | none => { s with bindings := s.bindings.erase name }

def visible (s : State) : Bindings Variable :=
  s.scopes.reverse.foldl (fun b scope => b.insertAll scope.bindings) s.bindings

def value? (name : String) (s : State) : Option String :=
  (s.lookup? name).bind (·.value.plain?)

/-- The options of a shell that are set with `set`, with their letters. -/
def optionNames : List (String × Char) :=
  [("allexport", 'a'), ("braceexpand", 'B'), ("emacs", ' '), ("errexit", 'e'), ("errtrace", 'E'),
    ("functrace", 'T'), ("hashall", 'h'), ("histexpand", 'H'), ("history", ' '), ("ignoreeof", ' '),
    ("interactive-comments", ' '), ("keyword", 'k'), ("monitor", 'm'), ("noclobber", 'C'),
    ("noexec", 'n'), ("noglob", 'f'), ("nolog", ' '), ("notify", 'b'), ("nounset", 'u'),
    ("onecmd", 't'), ("physical", 'P'), ("pipefail", ' '), ("posix", ' '), ("privileged", 'p'),
    ("verbose", 'v'), ("vi", ' '), ("xtrace", 'x')]

def setNames (s : State) : List String := (optionNames.map (·.1)).filter (s.hasOption ·)

def calls (s : State) : List Scope := s.scopes.filter (·.isCall)

/-- What is being evaluated, the innermost first: functions and files, among them the script of the
shell. -/
def frames (s : State) : List Scope :=
  s.scopes.filter (!·.source.isEmpty) ++
    (if s.functionSource = "environment" || s.functionSource = "main" then []
      else [⟨false, "main", s.functionSource, 0, none, []⟩])

def computed? (name : String) (s : State) : Option Value :=
  if s.isStrict then
    match name with
    | "PPID" => some (.text (toString (s.shell - 1)))
    | _ => none
  else
    match name with
    | "LINENO" => some (.text (toString s.line))
    | "RANDOM" => some (.text (toString (s.random / 65536 % 32768)))
    | "SECONDS" => some (.text (toString (s.now / 1000)))
    | "BASHPID" => some (.text (toString s.process))
    | "BASH_SUBSHELL" => some (.text (toString s.depth))
    | "PPID" => some (.text (toString (s.shell - 1)))
    | "FUNCNAME" =>
      if s.isInFunction then some (Value.numbered (s.frames.map (·.function))) else none
    | "BASH_SOURCE" => some (Value.numbered (s.frames.map (·.source)))
    | "BASH_LINENO" => some (Value.numbered (s.frames.map fun c => toString c.line))
    | "BASH_ARGV0" => some (.text s.name)
    | "PIPESTATUS" => some (Value.numbered (s.stageStatuses.map toString))
    | "DIRSTACK" => some (Value.numbered (s.directory :: s.directoryStack))
    | "SHELLOPTS" => some (.text (":".intercalate (s.setNames)))
    | "BASHOPTS" => some (.text (":".intercalate (s.extras.mergeSort (· ≤ ·))))
    | "BASH_COMMAND" => s.current.map fun c => .text (c.headline s.documents)
    | "UID" => some (.text "0")
    | "EUID" => some (.text "0")
    | _ => none

/-- The place of a name in the table of 39 places that a plain shell has. -/
def plainPlace (name : String) : Nat :=
  ((name.toList.map Char.toNat).foldr (· + ·) 0 +
    16 * ((name.toList.head?.map Char.toNat).getD 0)) % 39

/-- The environment that a program gets, in the order of the tables of variables. Those that are set
for the one command come first, and the program itself is told at the end. -/
def environment (s : State) : List (String × String) :=
  let exported (vs : Bindings Variable) : List (String × String) :=
    vs.filterMap fun v =>
      match (s.computed? v.1).getD v.2.value with
      | .text t => if v.2.attributes.isExported then some (v.1, t) else none
      | _ => none
  let sorted (place : String → Nat) (vs : List (String × String)) : List (String × String) :=
    vs.mergeSort fun a b => place a.1 ≤ place b.1
  match s.handed with
  | some all => all
  | none =>
    if s.isStrict then sorted plainPlace (exported s.visible)
    else
      let own :=
        ((s.scopes.takeWhile (!·.isCall)).map fun scope => exported scope.bindings).flatten
      /- Variables of functions hide others only if they have values. -/
      let all := s.scopes.reverse.foldl
        (fun vs scope => vs.insertAll (scope.bindings.filter (·.2.value != .missing))) s.bindings
      let others := (exported all).filter fun v => (own.lookup v.1).isNone
      let functions := s.functions.filterMap fun f =>
        if f.2.isExported then
          some ("BASH_FUNC_" ++ f.1 ++ "%%", Command.handedOn s.documents f.2.body)
        else none
      let all := sorted (Value.place · % 64) s.passed ++ sorted (Value.place · % 4) own ++
        sorted Value.place others ++ sorted (Value.place · % 512) functions
      if (all.lookup "_").isSome then
        all.map fun v => if v.1 = "_" then ("_", s.lastArgument) else v
      else all ++ [("_", s.lastArgument)]

def givenUpStatus (s : State) : Nat := if s.hasOption "errexit" then 1 else s.lostStatus

def separators (s : State) : List Char :=
  match s.lookup? "IFS" with
  | some v => (v.value.plain?.map fun t => s.charset.units t.toList).getD [' ', '\t', '\n']
  | none => [' ', '\t', '\n']

def programCharset (s : State) : Charset :=
  let all := s.environment
  let value (name : String) : String := (all.lookup name).getD ""
  match (["LC_ALL", "LC_CTYPE", "LANG"].map value).find? (!·.isEmpty) with
  | some name => (charsetNamed? name).getD .bytes
  | none => .bytes

def separator (s : State) : String := String.ofList (s.charset.text (s.separators.take 1))

def comparison (s : State) : Comparison := ⟨s.hasExtra "nocasematch", s.charset⟩

def grammar (s : State) : Glob.Grammar := ⟨s.hasExtra "extglob", !s.isStrict⟩

def pattern (m : List Marked) (s : State) : Pattern := .ofMarked s.comparison s.grammar m

end State

namespace Act

def status : Act Nat := do return (← get).status

def setStatus (n : Nat) : Act Unit := modify fun s => { s with status := n }

def isStrict : Act Bool := do return (← get).isStrict

/-- Time goes on to a later point. Nothing is done after the limit. -/
def waitUntil (time : Nat) : Act Unit := do
  let s ← get
  let time := max s.now time
  match s.world.limit with
  | some limit =>
    if limit ≤ time then
      set { s with now := limit }
      throw .endless
    else set { s with now := time }
  | none => set { s with now := time }

def modifyOpening (n : Nat) (f : Opening → Opening) : Act Unit :=
  modify fun s => { s with world := { s.world with openings := s.world.openings.modify n f } }

/-- A pipe to which more is written than this is not read to its end. -/
def maxWrites : Nat := 66000

def writeTo (n : Nat) (text : String) : Act Unit := do
  let s ← get
  match s.world.openings[n]? with
  | none => return ()
  | some o =>
    match o.target with
    | .pipe number =>
      let add (p : Pipe) : Pipe := p.add ⟨s.now, text⟩
      if number > 1 && (s.world.pipes[number]?).any fun p => p.writes > maxWrites then
        throw (.killed 13)
      set { s with world := { s.world with pipes := s.world.pipes.modify number add } }
    | .file path =>
      let content := (s.world.files.content? path).getD ""
      let size := content.length
      let start := if o.appends then size else o.offset
      let result :=
        if start = size then content ++ text
        else
          let cs := content.toList
          String.ofList (cs.take start ++ List.replicate (start - size) '\x00' ++ text.toList ++
            cs.drop (start + text.length))
      set { s with world := { s.world with files := s.world.files.write path result } }
      modifyOpening n fun o => { o with offset := start + text.length }
    | _ => return ()

/-- Writes to a descriptor; tells whether it is open for that. -/
def write (descriptor : Nat) (text : String) : Act Bool := do
  let s ← get
  match s.descriptors.lookup descriptor with
  | some n =>
    if (s.world.openings[n]?).any (·.writes) then
      if !text.isEmpty then writeTo n text
      let isLost := descriptor == 1 && !text.isEmpty &&
        (s.world.openings[n]?).any (·.target == .zeros true)
      if isLost then modify fun s => { s with hasLostOutput := true }
      return true
    else return false
  | none => return false

def put (descriptor : Nat) (text : String) : Act Unit := do
  let _ ← write descriptor text

def mark : Act String := do
  let s ← get
  return if s.isStrict then s.name ++ ": " ++ toString s.line ++ ": " ++ s.caller
    else s.source ++ (if s.line = 0 then "" else ": line " ++ toString s.line) ++ ": "

def warn : Act Unit := do
  let waiting := (← get).warnings
  if !waiting.isEmpty then
    modify fun s => { s with warnings := [] }
    waiting.forM fun w => do put 2 ((← mark) ++ w ++ "\n")

def complain (message : String) : Act Unit := do
  warn
  put 2 ((← mark) ++ message ++ "\n")

/-- A message about what the shell itself cannot do; where failures end it, this one does. -/
def report (message : String) : Act Unit := do
  complain message
  if (← get).hasOption "errexit" then
    setStatus 1
    throw .leaving

def fault (message : String) (status : Nat) : Act Unit := do
  complain message
  setStatus status

/-- Gives up the rest of the line with a message; a plain shell leaves. -/
def abandon (message : String) : Act α := do
  let s ← get
  if s.isStrict then
    fault message 2
    throw .leaving
  else if s.hasOption "posix" then
    fault message s.givenUpStatus
    throw .leaving
  else
    fault message 1
    throw .discarding

/-- Gives up with a message: also the shell, where failures end it. -/
def abandonFirmly (message : String) : Act α := do
  let s ← get
  if s.isStrict then
    fault message 2
    throw .leaving
  else
    fault message (if s.hasOption "posix" then s.givenUpStatus else 1)
    throw (if s.hasOption "errexit" || s.hasOption "posix" then .leaving else .discarding)

end Act

end GatedPipeline.Shell
