import GatedPipeline.Definition.Basic
import GatedPipeline.Definition.Record

namespace GatedPipeline

def TriggerKind.ofText? (s : String) : Option TriggerKind :=
  if s = "push" then some .push
  else if s = "pull_request" then some .pullRequest
  else none

namespace Schema

open Record

def trigger (j : Json) : Option Trigger := do
  let field ← (← j.record?).fields? ["type", "branches", "tags"]
  some {
    kind := ← required (fun j => j.choice?.bind TriggerKind.ofText?) (field "type")
    branches := ← defaulted (Json.listOf? Json.str?) [] (field "branches")
    tags := ← defaulted (Json.listOf? Json.str?) [] (field "tags") }

def step (j : Json) : Option Step := do
  let field ← (← j.record?).fields? ["name", "run", "shell", "working_directory", "env",
    "continue_on_error", "timeout_minutes"]
  some {
    name := ← required Json.str? (field "name")
    run := ← required Json.str? (field "run")
    shell := ← defaulted Json.str? "bash" (field "shell")
    workingDirectory := ← Json.maybe Json.str? (field "working_directory")
    env := ← defaulted (Json.bindings? Json.str?) [] (field "env")
    continueOnError := ← defaulted Json.bool? false (field "continue_on_error")
    timeoutMinutes := ← Json.maybe Json.count? (field "timeout_minutes") }

def secretFields : List String := ["name", "key", "provider", "required"]

/-- A secret is written as a name or with its fields by name. -/
def secret : Json → Option SecretRef
  | .str name => some (.named name)
  | .obj members => do
    let field ← (Record.named members).fields? secretFields
    some {
      name := ← required Json.str? (field "name")
      key := ← Json.maybe Json.str? (field "key")
      provider := ← Json.maybe Json.str? (field "provider")
      required := ← defaulted Json.bool? true (field "required") }
  | _ => none

def axis (m : String × Json) : Option Axis := (Json.listOf? some m.2).map (⟨m.1, ·⟩)

/-- The axes keep their order. -/
def axes (j : Json) : Option (List Axis) := j.obj?.bind (·.mapM axis)

def matrix (j : Json) : Option Matrix := do
  let field ← (← j.record?).fields? ["axes", "include", "exclude"]
  some {
    axes := ← required axes (field "axes")
    inclusions := ← defaulted (Json.listOf? (Json.bindings? some)) [] (field "include")
    exclusions := ← defaulted (Json.listOf? (Json.bindings? some)) [] (field "exclude") }

def job (j : Json) : Option Job := do
  let field ← (← j.record?).fields? ["name", "display_name", "needs", "if", "matrix", "env",
    "secrets", "steps"]
  some {
    name := ← required Json.str? (field "name")
    displayName := ← Json.maybe Json.str? (field "display_name")
    needs := ← defaulted (Json.listOf? Json.str?) [] (field "needs")
    condition := ← Json.maybe Json.str? (field "if")
    matrix := ← Json.maybe matrix (field "matrix")
    env := ← defaulted (Json.bindings? Json.str?) [] (field "env")
    secrets := ← defaulted (Json.listOf? secret) [] (field "secrets")
    steps := ← required (Json.listOf? step) (field "steps") }

def pipeline (j : Json) : Option Pipeline := do
  let field ← (← j.record?).fields? ["name", "description", "triggers", "env", "jobs"]
  some {
    name := ← required Json.str? (field "name")
    description := ← Json.maybe Json.str? (field "description")
    triggers := ← defaulted (Json.listOf? trigger) [] (field "triggers")
    env := ← defaulted (Json.bindings? Json.str?) [] (field "env")
    jobs := ← required (Json.listOf? job) (field "jobs") }

end Schema

namespace Outline

open OutlineField

def texts : Outline := .list .text

def textMapping : Outline := .mapping .text

def trigger : Outline :=
  .record "TriggerConfig"
    [needed "type" (.choice ["push", "pull_request"]), optional "branches" texts,
      optional "tags" texts]

def step : Outline :=
  .record "StepDefinition"
    [needed "name" .text, needed "run" .text, optional "shell" .text,
      optional "working_directory" (.maybe .text), optional "env" textMapping,
      optional "continue_on_error" .truth, optional "timeout_minutes" (.maybe .count)]

/-- The fields of a secret are taken as they are written. -/
def secret : Outline :=
  .textOrRecord "SecretReferenceRepr" Schema.secretFields fun j => (Schema.secret j).isSome

def matrix : Outline :=
  .record "MatrixConfig"
    [needed "axes" (.ordered "a mapping of axis name to a list of values" (.list .anything)),
      optional "include" (.list (.mapping .anything)),
      optional "exclude" (.list (.mapping .anything))]

def job : Outline :=
  .record "JobDefinition"
    [needed "name" .text, optional "display_name" (.maybe .text), optional "needs" texts,
      optional "if" (.maybe .text), optional "matrix" (.maybe matrix), optional "env" textMapping,
      optional "secrets" (.list secret), needed "steps" (.list step)]

def pipeline : Outline :=
  .record "PipelineDefinition"
    [needed "name" .text, optional "description" (.maybe .text),
      optional "triggers" (.list trigger), optional "env" textMapping,
      needed "jobs" (.list job)]

end Outline

end GatedPipeline
