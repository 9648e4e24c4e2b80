import GatedPipeline.Environment
import GatedPipeline.Shell.Evaluation
import GatedPipeline.StepRunner
import GatedPipeline.Text.Bytes

namespace GatedPipeline

namespace Shell

structure Host where
  environment : Environment
  directory : String

/-- How long a step may take unless it says so, and which variables of the host it sees. -/
structure RunnerConfig where
  defaultTimeout : Option Duration
  passthrough : List String
deriving DecidableEq, Repr

def RunnerConfig.defaultPassthrough : List String :=
  ["PATH", "HOME", "USER", "LANG", "TERM", "TMPDIR", "CARGO_HOME", "RUSTUP_HOME"]

def RunnerConfig.standard : RunnerConfig := ⟨some ⟨3600 * 1000000000⟩, defaultPassthrough⟩

def processEnvironment (config : RunnerConfig) (host : Environment) (c : StepContext) :
    Environment :=
  (Bindings.ofList (config.passthrough.filterMap fun name =>
    (host.value? name).map (name, ·))).insertAll c.env

/-- The arguments of a shell; the two best known ones are told to stop at the first failure. -/
def shellArguments (c : StepContext) : List String :=
  (if c.shell = "bash" ∨ c.shell = "sh" then ["-e"] else []) ++ ["-c", c.command]

structure OutputLine where
  isError : Bool
  text : String
deriving DecidableEq, Repr

/-- What came of a step in a shell; it has no end if it would go on for ever. -/
structure Outcome where
  lines : List OutputLine
  ending : Option StepEnd
  elapsed : Nat
  files : Files

/-- Output on its way to lines: what is still open in either stream, and the lines in reverse. -/
structure Collected where
  standard : String
  error : String
  lines : List OutputLine

namespace Collected

/-- A line ends with a line feed, and with a carriage return before it if there is one. -/
def withoutReturn (s : String) : String :=
  match s.toList.reverse with
  | '\r' :: rest => String.ofList rest.reverse
  | _ => s

def add (c : Collected) (isError : Bool) (piece : String) : Collected :=
  let text := (if isError then c.error else c.standard) ++ piece
  let pieces := Text.splitAt '\n' text
  let lines := pieces.dropLast.map fun l => ⟨isError, withoutReturn l⟩
  let rest := pieces.getLastD ""
  if isError then { c with error := rest, lines := lines.reverse ++ c.lines }
  else { c with standard := rest, lines := lines.reverse ++ c.lines }

/-- At the end of the output an open line is a line as well. -/
def close (c : Collected) : List OutputLine :=
  c.lines.reverse ++ (if c.standard.isEmpty then [] else [⟨false, c.standard⟩]) ++
    (if c.error.isEmpty then [] else [⟨true, c.error⟩])

/-- What has been written to the two streams, in the order of time. -/
def ofChunks (standard error : List Chunk) : Collected :=
  let marked := standard.map (false, ·) ++ error.map (true, ·)
  (marked.mergeSort fun a b => a.2.time ≤ b.2.time).foldl
    (fun c m => c.add m.1 m.2.text) ⟨"", "", []⟩

/-- The lines that are texts. A stream is read no further than to the first line that is none. -/
def readable (unreadable : List Bool) : List OutputLine → List OutputLine
  | [] => []
  | l :: ls =>
    if unreadable.contains l.isError then readable unreadable ls
    else
      match Text.decoded? l.text with
      | some t => ⟨l.isError, t⟩ :: readable unreadable ls
      | none => readable (l.isError :: unreadable) ls

end Collected

/-- Files with all paths and contents changed, to be in bytes or not. -/
def mapFiles (inBytes : Bool) (f : String → String) (files : Files) : Files :=
  ⟨inBytes, files.entries.map fun e =>
    (f e.1, match e.2 with
      | .file content isExecutable => .file (f content) isExecutable
      | .directory => .directory)⟩

def commonDirectories : List String :=
  ["/bin", "/dev", "/etc", "/home", "/opt", "/proc", "/root", "/tmp", "/usr", "/usr/bin",
    "/usr/lib", "/usr/local", "/usr/local/bin", "/usr/share", "/var", "/var/tmp"]

/-- The variables of an environment as they are written: a name ends at the first sign that could be
the one before the value. -/
def writtenEnvironment (environment : Environment) : List (String × String) :=
  environment.filterMap fun v =>
    let text := (v.1 ++ "=" ++ v.2).toList
    let name := text.takeWhile (· != '=')
    if name.isEmpty then none
    else some (String.ofList name, String.ofList (text.drop (name.length + 1)))

/-- The process that is about to run a program. All texts in it are bytes. -/
def startingProcess (environment : Environment) (directory : String) (files : Files)
    (limit : Option Nat) : State where
  name := ""
  isStrict := true
  options := []
  extras := []
  bindings :=
    (Bindings.ofList [("PATH", Variable.ofText Startup.fallbackPath)]).insertAll
      ((writtenEnvironment environment).map fun v =>
        (Text.encoded v.1, ⟨.text (Text.encoded v.2), { Attributes.none with isExported := true }⟩))
  passed := []
  scopes := []
  parameters := []
  functions := []
  aliases := []
  disabled := []
  completions := []
  found := []
  directory := Text.encoded directory
  directoryStack := []
  descriptors := [(0, 0), (1, 1), (2, 2)]
  substituted := []
  sinks := []
  held := []
  documents := #[]
  status := 0
  innerStatus := none
  stageStatuses := []
  line := 1
  compoundLine := 1
  source := ""
  functionSource := ""
  caller := ""
  loopDepth := 0
  isSourced := false
  depth := 0
  process := State.mainProcess - 1
  shell := State.mainProcess - 1
  ancestors := []
  isReplaced := false
  isLast := false
  traps := []
  outerTraps := []
  isTrapping := false
  current := none
  keepsCurrent := false
  jobs := []
  inherited := []
  jobCount := 0
  lastJob := none
  coprocess := none
  ended := some 0
  origin := "c"
  reserved := []
  lastArgument := ""
  isSubstituting := false
  handed := none
  mask := 18
  optionPlace := 0
  isTested := false
  lostStatus := 127
  failedCalls := none
  lostCount := none
  traceDepth := 0
  lastCharset := .bytes
  ignoresNames := false
  hasLostOutput := false
  warnings := []
  random := 1
  now := 0
  world := {
    files :=
      mapFiles true Text.encoded (commonDirectories.foldl Files.makeDirectory files)
    openings := #[⟨.nothing, 0, false, true, false⟩, ⟨.pipe 0, 0, false, false, true⟩,
      ⟨.pipe 1, 0, false, false, true⟩]
    pipes := #[.empty, .empty]
    signals := []
    nextProcess := State.mainProcess
    limit := limit
    dialogues := [] }

def startFault? (s : State) (program : String) : Option FileFault :=
  match s.place? program with
  | some _ => none
  | none =>
    if program.contains '/' then
      match s.world.files.find s.directory program with
      | .ok _ => some .denied
      | .error f => some f
    else some .missing

def hasNul (s : String) : Bool := s.contains '\x00'

def limitOf (limit : Duration) : Nat := (limit.nanos + 999999) / 1000000

/-- What a step's shell leaves, under a limit of time. A process that a signal ended has the exit
code -1. -/
def outcome (limit : Option Duration) (e : Act.Ended) : Outcome :=
  let pipe (n : Nat) : Pipe := (e.state.world.pipes[n]?).getD .empty
  let finish := max e.state.now (max (pipe 0).heldUntil (pipe 1).heldUntil)
  let isLate := limit.any fun l => e.isEndless || limitOf l ≤ finish
  let files := mapFiles false (fun t => (Text.decoded? t).getD t) e.state.world.files
  match limit, isLate with
  | some l, true =>
    let early (n : Nat) : List Chunk := (pipe n).chunks.filter fun c => c.time < limitOf l
    let seen := Collected.ofChunks (early 0) (early 1)
    ⟨Collected.readable [] seen.lines.reverse, some (.failed (.stepTimeout l)), l.millis, files⟩
  | _, _ =>
    let code : Int := if e.signal.isSome then -1 else e.state.status
    ⟨Collected.readable [] (Collected.ofChunks (pipe 0).chunks (pipe 1).chunks).close,
      if e.isEndless then none else some (.exited code (code == 0)), finish, files⟩

def run (config : RunnerConfig) (host : Host) (files : Files) (c : StepContext) : Outcome :=
  let environment := processEnvironment config host.environment c
  let fault (why : String) : Outcome :=
    ⟨[], some (.failed (.internal ("Failed to spawn " ++ c.shell ++ ": " ++ why))), 0, files⟩
  if hasNul c.shell || hasNul c.command || hasNul c.directory ||
      environment.any (fun v => hasNul v.1 || hasNul v.2) then
    fault "nul byte found in provided data"
  else
    match files.find host.directory c.directory with
    | .error f => fault f.message
    | .ok (_, .file ..) => fault FileFault.notDirectory.message
    | .ok (directory, .directory) =>
      let limit := c.timeout.or config.defaultTimeout
      let s := startingProcess environment directory files (limit.map limitOf)
      match startFault? s (Text.encoded c.shell) with
      | some f => fault f.message
      | none =>
        outcome limit (Act.evaluateChild
          (Evaluation.runWith (Text.encoded c.shell) ((shellArguments c).map Text.encoded)) s)

end Shell

/-- The runner that hands steps to a shell; what they write to files is seen by later steps. -/
def StepRunner.shell (config : Shell.RunnerConfig) (host : Shell.Host) : StepRunner Files :=
  fun c files =>
    let o := Shell.run config host files c
    (⟨o.lines.map (·.text), o.ending, o.elapsed⟩, o.files)

end GatedPipeline
