import GatedPipeline.CommandLine.Arguments
import GatedPipeline.Definition.Document
import GatedPipeline.Definition.Shape
import GatedPipeline.DotEnv
import GatedPipeline.Plan
import GatedPipeline.Report.Printer
import GatedPipeline.Run.Basic
import GatedPipeline.Settings.Basic

namespace GatedPipeline.CommandLine

/-- Where the program runs: its environment, its directory and the files around it, and the
identity and the time of a run that it might start. -/
structure Machine where
  environment : Environment
  directory : String
  files : Files
  runId : RunId
  clock : Nat

inductive Failure where
  | plain (message : String)
  | caused (context cause : String)
deriving DecidableEq, Repr

namespace Failure

/-- Further lines of a cause are indented like the first. -/
def text : Failure → String
  | .plain message => "Error: " ++ message ++ "\n"
  | .caused context cause =>
    "Error: " ++ context ++ "\n\nCaused by:\n    " ++ Text.replaceAll "\n" "\n    " cause ++ "\n"

def ofGraph (e : GraphError) : Failure := .plain e.toError.message

end Failure

structure Outcome where
  output : String
  result : Except Failure Nat
  files : Files

namespace Outcome

def code (o : Outcome) : Nat :=
  match o.result with
  | .ok code => code
  | .error _ => 1

def error (o : Outcome) : String :=
  match o.result with
  | .ok _ => ""
  | .error f => f.text

end Outcome

namespace Machine

/-- The environment, with what the file `.env` in the directory adds. -/
def prepared (m : Machine) : Machine :=
  match m.files.read m.directory ".env" with
  | .ok content => { m with environment := DotEnv.load m.environment content }
  | .error _ => m

/-- The directory for settings: the one that is set for all programs or the usual one. -/
def settingsRoot? (m : Machine) : Option String :=
  match (m.environment.value? "XDG_CONFIG_HOME").filter Path.isAbsolute with
  | some path => some path
  | none =>
    ((m.environment.value? "HOME").filter (!·.isEmpty)).map fun home => Path.join home ".config"

def settingsPath? (m : Machine) : Option String :=
  m.settingsRoot?.map fun root => Path.join (Path.join root "ferrule") "config.yaml"

def settingsContent? (m : Machine) : Option String :=
  m.settingsPath?.bind fun path => (m.files.read "/" path).toOption

def settings (m : Machine) : Settings := Settings.load m.settingsContent?

/-- All paths at which a request might read: its words, the values in them, and what is set. -/
def mentioned (m : Machine) (words : List String) : List String :=
  let s := m.prepared.settings
  words ++ words.flatMap (Text.splitAt '=') ++ s.defaultPipeline :: s.secretsFile.toList ++
    s.workspace.toList

def prints (m : Machine) (output : String) : Outcome := ⟨output, .ok 0, m.files⟩

def fails (m : Machine) (f : Failure) : Outcome := ⟨"", .error f, m.files⟩

def printsOr (m : Machine) (r : Except Failure String) : Outcome :=
  match r with
  | .ok output => m.prints output
  | .error f => m.fails f

def pipelinePath (m : Machine) (path : Option String) : String :=
  path.getD m.settings.defaultPipeline

def loadPipeline (m : Machine) (path : String) : Except Failure Pipeline :=
  match m.files.read m.directory path with
  | .error f => .error (.caused ("reading pipeline " ++ path) f.message)
  | .ok content =>
    (Pipeline.load content).mapError fun e => .caused ("invalid pipeline " ++ path) e.message

end Machine

def jobLine (g : JobGraph) (j : Job) : String :=
  "    - " ++ j.name ++ " (" ++ toString j.steps.length ++ " steps" ++
    (if j.matrix.isSome then ", " ++ toString (g.instancesOf j.name).length ++ " instances"
      else "") ++ ")" ++
    (if j.needs.isEmpty then "" else " needs " ++ ", ".intercalate j.needs) ++
    (match j.condition with
      | none => ""
      | some c => " if " ++ c) ++ "\n"

def validationText (p : Pipeline) (g : JobGraph) : String :=
  "✓ Pipeline \"" ++ p.name ++ "\" is valid\n  Jobs: " ++ toString p.jobs.length ++ " (" ++
    toString g.size ++ " instances)\n" ++ String.join (p.jobs.map (jobLine g))

def plannedLine (position : Nat) (i : PlannedInstance) : String :=
  let number := toString position
  "  " ++ (if number.length < 2 then " " else "") ++ number ++ ". " ++
    (if i.gateOpen then "●" else "○") ++ " " ++ i.id.display ++
    (if i.needs.isEmpty then ""
      else "  needs " ++ ", ".intercalate (i.needs.map InstanceId.display)) ++
    (match i.condition with
      | none => ""
      | some c => "  if " ++ c ++ " (" ++ (if i.gateOpen then "open" else "closed") ++ ")") ++ "\n"

def planText (p : Plan) : String :=
  "Pipeline " ++ p.pipelineName ++ " for " ++ p.event.kind.text ++ " " ++ p.event.gitRef ++ "\n" ++
    if p.triggered then
      String.join (p.instances.zipIdx.map fun (i, n) => plannedLine (n + 1) i)
    else "- Event does not match any trigger\n"

namespace Machine

def validate (m : Machine) (path : Option String) : Except Failure String := do
  let p ← m.loadPipeline (m.pipelinePath path)
  match JobGraph.build p with
  | .ok g => .ok (validationText p g)
  | .error e => .error (.ofGraph e)

def plan (m : Machine) (path : Option String) (event : Event) (format : Option OutputFormat) :
    Except Failure String := do
  let p ← m.loadPipeline (m.pipelinePath path)
  match Plan.make p event with
  | .error e => .error (.ofGraph e)
  | .ok plan =>
    match format.getD m.settings.outputFormat with
    | .json => .ok (plan.toJson.pretty ++ "\n")
    | .table => .ok (planText plan)

/-- The environment always provides secrets; a file of secrets is asked first if there is one. -/
def secretStore (m : Machine) (file : Option String) : Except Failure SecretStore :=
  let store := SecretStore.empty.register "env"
    (.ofEnvironment m.environment (some m.settings.secretEnvPrefix))
  match file with
  | none => .ok store
  | some path =>
    let broken (e : Error) : Except Failure SecretStore :=
      .error (.caused ("loading secrets from " ++ path) e.message)
    match m.files.read m.directory path with
    | .error f => broken (.internal ("Failed to read secrets file " ++ path ++ ": " ++ f.message))
    | .ok content =>
      match SecretProvider.valuesOfText content with
      | .error e => broken e
      | .ok values =>
        .ok ({ store with defaultProvider := "file" }.register "file" (.ofValues values))

def setup (m : Machine) (store : SecretStore) (workspace : Option String) : RunSetup Files where
  runId := m.runId
  startedAt := m.clock
  workspace := (workspace.or m.settings.workspace).getD m.directory
  defaultTimeout := m.settings.stepTimeoutMinutes.map Duration.ofMinutes
  store := store
  runner := .shell { Shell.RunnerConfig.standard with passthrough := m.settings.passthroughEnv }
    ⟨m.environment, m.directory⟩
  order := .byTime

def heading (p : Pipeline) (event : Event) : String :=
  "\n▶ Running pipeline: " ++ p.name ++ " (" ++ event.kind.text ++ " " ++ event.gitRef ++ ")\n\n"

def outcomeText (format : OutputFormat) (o : RunOutcome) : String :=
  match o, format with
  | .notTriggered, .json => (Json.obj [("triggered", .bool false)]).compact ++ "\n"
  | .notTriggered, .table => "- Event does not match any trigger; nothing to run\n"
  | .completed r, .json => r.toJson.pretty ++ "\n"
  | .completed r, .table => r.text

def outcomeCode : RunOutcome → Nat
  | .notTriggered => 0
  | .completed r => if r.status = .succeeded then 0 else 1

def run (m : Machine) (path : Option String) (event : Event)
    (secretsFile workspace : Option String) (format : Option OutputFormat) : Outcome :=
  match m.loadPipeline (m.pipelinePath path) with
  | .error f => m.fails f
  | .ok p =>
    match m.secretStore (secretsFile.or m.settings.secretsFile) with
    | .error f => m.fails f
    | .ok store =>
      let format := format.getD m.settings.outputFormat
      let heading := if format = .table then heading p event else ""
      match p.execute (m.setup store workspace) event m.files with
      | .error e => ⟨heading, .error (.ofGraph e), m.files⟩
      | .ok r =>
        ⟨heading ++ outcomeText format r.outcome, .ok (outcomeCode r.outcome), r.runnerState⟩

def showSettings (m : Machine) : String :=
  m.settings.text ++
    match m.settingsPath? with
    | some path => "\nConfig file: " ++ path ++ "\n"
    | none => ""

def noSettingsPath : Failure := .plain "could not determine config directory"

def setSetting (m : Machine) (key value : String) : Outcome :=
  match Settings.change m.settingsContent? key value with
  | .error f => m.fails (.plain f.message)
  | .ok content =>
    match m.settingsPath? with
    | none => m.fails noSettingsPath
    | some path =>
      match m.files.save path content with
      | .error f => m.fails (.plain f.message)
      | .ok files => ⟨"✓ Set " ++ key ++ " = " ++ value ++ "\n", .ok 0, files⟩

def answer (m : Machine) : Request → Outcome
  | .validate path => m.printsOr (m.validate path)
  | .plan path event format => m.printsOr (m.plan path event format)
  | .run path event secretsFile workspace format => m.run path event secretsFile workspace format
  | .schema => m.prints (Shape.document.pretty ++ "\n")
  | .showConfig => m.prints m.showSettings
  | .setConfig key value => m.setSetting key value
  | .configPath =>
    match m.settingsPath? with
    | some path => m.prints (path ++ "\n")
    | none => m.fails noSettingsPath
  | .version => m.prints "ferrule 0.1.0\n"

end Machine

def usage : String :=
  "Usage: ferrule <validate|plan|run|schema|config> [ARGUMENTS]\n"

def usageCode : Nat := 2

/-- Runs the program with the words of its command line: what it prints to either stream, its exit
code, and the files it leaves. -/
def execute (words : List String) (m : Machine) : String × String × Nat × Files :=
  match Request.ofWords? words with
  | none => ("", usage, usageCode, m.files)
  | some r =>
    let o := m.prepared.answer r
    (o.output, o.error, o.code, o.files)

end GatedPipeline.CommandLine
