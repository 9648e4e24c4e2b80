import GatedPipeline.Interpolation
import GatedPipeline.JobGraph
import GatedPipeline.RunId
import GatedPipeline.Secret.Scope
import GatedPipeline.StepRunner
import GatedPipeline.Text.UpperCase

namespace GatedPipeline

structure RunContext where
  runId : RunId
  event : Event
  pipelineEnv : Bindings String
  workspace : String
  defaultTimeout : Option Duration
deriving Repr

namespace RunContext

def matrixVariable (axis : String) : String :=
  "MATRIX_" ++ (Text.upperCase axis).map fun c => if c == '-' then '_' else c

def runVariables (c : RunContext) (id : InstanceId) : List (String × String) :=
  [("CI", "true"), ("FERRULE_RUN_ID", c.runId.text), ("FERRULE_REF", c.event.gitRef),
    ("FERRULE_EVENT", c.event.kind.text), ("FERRULE_JOB", id.display)]

/-- The env that all steps of an instance share, without its secrets. -/
def baseEnv (c : RunContext) (n : Instance) : Bindings String :=
  (((Bindings.ofList (c.runVariables n.id)).insertAll c.pipelineEnv).insertAll n.job.env).insertAll
    (n.id.params.map fun p => (matrixVariable p.1, p.2))

def interpolation (c : RunContext) (id : InstanceId) (env : Bindings String) : Interpolation :=
  ⟨env, .ofList id.params, c.event.gitRef, c.event.kind.text⟩

/-- The env of a step; expressions in them see the shared env, not each other. -/
def stepEnv (c : RunContext) (n : Instance) (step : Step) : Bindings String :=
  (c.baseEnv n).insertAll
    (step.env.map fun v => (v.1, (c.interpolation n.id (c.baseEnv n)).expand v.2))

def timeout (c : RunContext) (step : Step) : Option Duration :=
  (step.timeoutMinutes.map Duration.ofMinutes).or c.defaultTimeout

def stepContext (c : RunContext) (n : Instance) (secrets : ScopedSecrets) (step : Step) :
    StepContext where
  stepName := step.name
  command := (c.interpolation n.id (c.stepEnv n step)).expand step.run
  shell := step.shell
  workspace := c.workspace
  workingDirectory := step.workingDirectory
  -- The secrets come last: no expression of the command has seen them.
  env := secrets.applyTo (c.stepEnv n step)
  timeout := c.timeout step

end RunContext

end GatedPipeline
