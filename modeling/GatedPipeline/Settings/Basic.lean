import GatedPipeline.Definition.Record
import GatedPipeline.Shell.Runner
import GatedPipeline.Text.Blank
import GatedPipeline.Yaml.Printer
import GatedPipeline.Yaml.Reader

namespace GatedPipeline

inductive OutputFormat where
  | table
  | json
deriving DecidableEq, Repr

namespace OutputFormat

def text : OutputFormat → String
  | .table => "table"
  | .json => "json"

def shown : OutputFormat → String
  | .table => "Table"
  | .json => "Json"

def ofText? (s : String) : Option OutputFormat :=
  if s = "table" then some .table else if s = "json" then some .json else none

end OutputFormat

structure Settings where
  defaultPipeline : String
  workspace : Option String
  secretsFile : Option String
  secretEnvPrefix : String
  outputFormat : OutputFormat
  passthroughEnv : List String
  stepTimeoutMinutes : Option Nat
deriving DecidableEq, Repr

inductive SettingFault where
  | invalidFormat (value : String)
  | invalidMinutes (value : String)
  | unknownKey (key : String)
deriving DecidableEq, Repr

def SettingFault.message : SettingFault → String
  | .invalidFormat value => "Invalid output format: " ++ value
  | .invalidMinutes value => "Invalid number of minutes: " ++ value
  | .unknownKey key => "Unknown config key: " ++ key

namespace Settings

def initial : Settings where
  defaultPipeline := "ferrule.yaml"
  workspace := none
  secretsFile := none
  secretEnvPrefix := "FERRULE_SECRET_"
  outputFormat := .table
  passthroughEnv := Shell.RunnerConfig.defaultPassthrough
  stepTimeoutMinutes := none

/-- A blank value and `none` stand for no value. -/
def optionalValue (value : String) : Option String :=
  let v := Text.trim value
  if v = "" ∨ v = "none" then none else some v

/-- Digits, perhaps behind a plus, for a number of 32 bits. -/
def minutes? (s : String) : Option Nat :=
  let digits :=
    match s.toList with
    | '+' :: ds => ds
    | ds => ds
  if digits.isEmpty || !digits.all Char.isDigit then none
  else (String.ofList digits).toNat?.filter (· < Nat.pow 2 32)

/-- The items of a list with commas, without blanks around them; empty ones are left out. -/
def listValue (value : String) : List String :=
  ((Text.splitAt ',' value).map Text.trim).filter (!·.isEmpty)

def set (s : Settings) (key value : String) : Except SettingFault Settings :=
  if key = "default_pipeline" then .ok { s with defaultPipeline := value }
  else if key = "workspace" then .ok { s with workspace := optionalValue value }
  else if key = "secrets_file" then .ok { s with secretsFile := optionalValue value }
  else if key = "secret_env_prefix" then .ok { s with secretEnvPrefix := value }
  else if key = "output_format" then
    match OutputFormat.ofText? value with
    | some f => .ok { s with outputFormat := f }
    | none => .error (.invalidFormat value)
  else if key = "passthrough_env" then .ok { s with passthroughEnv := listValue value }
  else if key = "step_timeout_minutes" then
    match optionalValue value with
    | none => .ok { s with stepTimeoutMinutes := none }
    | some v =>
      match minutes? v with
      | some n => .ok { s with stepTimeoutMinutes := some n }
      | none => .error (.invalidMinutes v)
  else .error (.unknownKey key)

def text (s : Settings) : String :=
  "Current configuration:\n" ++
  "  default_pipeline: " ++ s.defaultPipeline ++ "\n" ++
  "  workspace: " ++ s.workspace.getD "(current directory)" ++ "\n" ++
  "  secrets_file: " ++ s.secretsFile.getD "(not set)" ++ "\n" ++
  "  secret_env_prefix: " ++ s.secretEnvPrefix ++ "\n" ++
  "  output_format: " ++ s.outputFormat.shown ++ "\n" ++
  "  passthrough_env: " ++ ", ".intercalate s.passthroughEnv ++ "\n" ++
  "  step_timeout_minutes: " ++
    ((s.stepTimeoutMinutes.map toString).getD "(runner default)") ++ "\n"

end Settings

end GatedPipeline

namespace GatedPipeline.Settings

open Record

def outline : Outline :=
  .record "CliConfig"
    [.optional "default_pipeline" .text, .optional "workspace" (.maybe .text),
      .optional "secrets_file" (.maybe .text), .optional "secret_env_prefix" .text,
      .optional "output_format" (.choice ["table", "json"]),
      .optional "passthrough_env" (.list .text), .optional "step_timeout_minutes" (.maybe .count)]

/-- The settings in a document; a field that is missing has its initial value. -/
def ofJson? (j : Json) : Option Settings := do
  let field ← (← j.record?).fields? ["default_pipeline", "workspace", "secrets_file",
    "secret_env_prefix", "output_format", "passthrough_env", "step_timeout_minutes"]
  some {
    defaultPipeline := ← defaulted Json.str? initial.defaultPipeline (field "default_pipeline")
    workspace := ← Json.maybe Json.str? (field "workspace")
    secretsFile := ← Json.maybe Json.str? (field "secrets_file")
    secretEnvPrefix := ← defaulted Json.str? initial.secretEnvPrefix (field "secret_env_prefix")
    outputFormat := ←
      defaulted (fun j => j.choice?.bind OutputFormat.ofText?) initial.outputFormat
        (field "output_format")
    passthroughEnv := ←
      defaulted (Json.listOf? Json.str?) initial.passthroughEnv (field "passthrough_env")
    stepTimeoutMinutes := ← Json.maybe Json.count? (field "step_timeout_minutes") }

def read? (content : String) : Option Settings :=
  (Yaml.read outline content).toOption.bind ofJson?

/-- The settings of a user, from what the settings file holds. Without a file, and with one that
cannot be read, they are the initial ones. -/
def load (content : Option String) : Settings := (content.bind read?).getD initial

def optionalEntry (name : String) : Option String → String
  | none => ""
  | some value => Yaml.entryText name value

def write (s : Settings) : String :=
  Yaml.entryText "default_pipeline" s.defaultPipeline ++
  optionalEntry "workspace" s.workspace ++
  optionalEntry "secrets_file" s.secretsFile ++
  Yaml.entryText "secret_env_prefix" s.secretEnvPrefix ++
  Yaml.entryText "output_format" s.outputFormat.text ++
  Yaml.listText "passthrough_env" s.passthroughEnv ++
  (match s.stepTimeoutMinutes with
    | none => ""
    | some n => "step_timeout_minutes: " ++ toString n ++ "\n")

def change (content : Option String) (key value : String) : Except SettingFault String :=
  ((load content).set key value).map write

end GatedPipeline.Settings
