import GatedPipeline.Event
import GatedPipeline.InstanceId
import GatedPipeline.RunId
import GatedPipeline.Text.Quoted

namespace GatedPipeline

inductive JobState where
  | pending
  | blocked
  | ready
  | running
  | succeeded
  | failed
  | skipped
  | gatedSkip
deriving DecidableEq, Repr

namespace JobState

/-- The state in data; shown to people, the underscore is a dash. -/
def key : JobState → String
  | .pending => "pending"
  | .blocked => "blocked"
  | .ready => "ready"
  | .running => "running"
  | .succeeded => "succeeded"
  | .failed => "failed"
  | .skipped => "skipped"
  | .gatedSkip => "gated_skip"

def display : JobState → String
  | .gatedSkip => "gated-skip"
  | s => s.key

def all : List JobState :=
  [.pending, .blocked, .ready, .running, .succeeded, .failed, .skipped, .gatedSkip]

def ofKey? (key : String) : Option JobState := all.find? (·.key == key)

/-- The final states other than success: what depends on such an instance must not run. -/
def blocksDependents : JobState → Bool
  | .failed | .skipped | .gatedSkip => true
  | _ => false

def isTerminal (s : JobState) : Bool := s == .succeeded || s.blocksDependents

end JobState

inductive Reason where
  | succeeded
  | stepFailed (step : String) (exitCode : Option Int) (message : Option String)
  | missingCredential (secret : String)
  | executionError (message : String)
  | skippedByCondition (condition : String)
  | dependencyFailed (dependency : String)
  | dependencySkipped (dependency : String)
deriving DecidableEq, Repr

inductive Category where
  | succeeded
  | failed
  | skippedByCondition
  | skippedByPropagation
deriving DecidableEq, Repr

def Category.key : Category → String
  | .succeeded => "succeeded"
  | .failed => "failed"
  | .skippedByCondition => "skipped_by_condition"
  | .skippedByPropagation => "skipped_by_propagation"

namespace Reason

def category : Reason → Category
  | .succeeded => .succeeded
  | .stepFailed .. | .missingCredential _ | .executionError _ => .failed
  | .skippedByCondition _ => .skippedByCondition
  | .dependencyFailed _ | .dependencySkipped _ => .skippedByPropagation

/-- The exit code, where there is one, says more than the message. -/
def display : Reason → String
  | .succeeded => "succeeded"
  | .stepFailed step (some code) _ =>
    "step " ++ Text.ticked step ++ " failed with exit code " ++ toString code
  | .stepFailed step none (some message) => "step " ++ Text.ticked step ++ " failed: " ++ message
  | .stepFailed step none none => "step " ++ Text.ticked step ++ " failed"
  | .missingCredential secret => "missing credential " ++ Text.ticked secret
  | .executionError message => "execution error: " ++ message
  | .skippedByCondition condition => "skipped by condition " ++ Text.ticked condition
  | .dependencyFailed dependency => "dependency failed: " ++ dependency
  | .dependencySkipped dependency => "dependency skipped: " ++ dependency

def toJson : Reason → Json
  | .succeeded => .obj [("kind", .str "succeeded")]
  | .stepFailed step exitCode message =>
    .obj ([("kind", .str "step_failed"), ("step", .str step),
      ("exit_code", Json.ofOption Json.ofInt exitCode)] ++
        (match message with
          | none => []
          | some m => [("message", .str m)]))
  | .missingCredential secret =>
    .obj [("kind", .str "missing_credential"), ("secret", .str secret)]
  | .executionError message =>
    .obj [("kind", .str "execution_error"), ("message", .str message)]
  | .skippedByCondition condition =>
    .obj [("kind", .str "skipped_by_condition"), ("condition", .str condition)]
  | .dependencyFailed dependency =>
    .obj [("kind", .str "dependency_failed"), ("dependency", .str dependency)]
  | .dependencySkipped dependency =>
    .obj [("kind", .str "dependency_skipped"), ("dependency", .str dependency)]

end Reason

inductive StepStatus where
  | succeeded
  | failed
  | failedIgnored
  | notRun
deriving DecidableEq, Repr

def StepStatus.key : StepStatus → String
  | .succeeded => "succeeded"
  | .failed => "failed"
  | .failedIgnored => "failed_ignored"
  | .notRun => "not_run"

/-- Times are in milliseconds. -/
structure StepReport where
  name : String
  status : StepStatus
  exitCode : Option Int
  duration : Nat
  output : List String
deriving DecidableEq, Repr

def StepReport.notRun (name : String) : StepReport := ⟨name, .notRun, none, 0, []⟩

structure InstanceReport where
  id : InstanceId
  state : JobState
  reason : Reason
  steps : List StepReport
  startedAt : Option Nat
  completedAt : Option Nat
  duration : Option Nat
deriving DecidableEq, Repr

def InstanceReport.notStarted (id : InstanceId) (state : JobState) (reason : Reason) (now : Nat) :
    InstanceReport :=
  ⟨id, state, reason, [], none, some now, none⟩

inductive RunStatus where
  | succeeded
  | failed
deriving DecidableEq, Repr

namespace RunStatus

def key : RunStatus → String
  | .succeeded => "succeeded"
  | .failed => "failed"

/-- Skips are no failures: a run fails only if one of its instances failed. -/
def aggregate (reports : List InstanceReport) : RunStatus :=
  if reports.any (·.state == .failed) then .failed else .succeeded

end RunStatus

structure Summary where
  succeeded : Nat
  failed : Nat
  skippedByCondition : Nat
  skippedByPropagation : Nat
deriving DecidableEq, Repr

namespace Summary

def countOf (reports : List InstanceReport) (c : Category) : Nat :=
  reports.countP (·.reason.category == c)

def ofReports (reports : List InstanceReport) : Summary :=
  ⟨countOf reports .succeeded, countOf reports .failed, countOf reports .skippedByCondition,
    countOf reports .skippedByPropagation⟩

def toJson (s : Summary) : Json :=
  .obj [("succeeded", Json.ofNat s.succeeded), ("failed", Json.ofNat s.failed),
    ("skipped_by_condition", Json.ofNat s.skippedByCondition),
    ("skipped_by_propagation", Json.ofNat s.skippedByPropagation)]

end Summary

structure RunReport where
  runId : RunId
  pipelineName : String
  event : Event
  status : RunStatus
  instances : List InstanceReport
  startedAt : Nat
  completedAt : Nat
deriving DecidableEq, Repr

namespace RunReport

/-- The first instance whose identity is displayed so. -/
def instance? (r : RunReport) (display : String) : Option InstanceReport :=
  r.instances.find? (·.id.display == display)

def summary (r : RunReport) : Summary := Summary.ofReports r.instances

def duration (r : RunReport) : Nat := r.completedAt - r.startedAt

end RunReport

end GatedPipeline
