import GatedPipeline.Duration
import GatedPipeline.Report
import GatedPipeline.Timestamp

namespace GatedPipeline

def StepReport.toJson (s : StepReport) : Json :=
  .obj [("name", .str s.name), ("status", .str s.status.key),
    ("exit_code", Json.ofOption Json.ofInt s.exitCode), ("duration_ms", Json.ofNat s.duration),
    ("output", Json.ofStrings s.output)]

def InstanceReport.toJson (i : InstanceReport) : Json :=
  .obj [("id", i.id.toJson), ("state", .str i.state.key), ("reason", i.reason.toJson),
    ("steps", .arr (i.steps.map StepReport.toJson)),
    ("started_at", Json.ofOption Timestamp.toJson i.startedAt),
    ("completed_at", Json.ofOption Timestamp.toJson i.completedAt),
    ("duration_ms", Json.ofOption Json.ofNat i.duration)]

namespace RunReport

def toJson (r : RunReport) : Json :=
  .obj [("run_id", .str r.runId.bareText), ("pipeline_name", .str r.pipelineName),
    ("event", .str r.event.kind.text), ("git_ref", .str r.event.gitRef),
    ("status", .str r.status.key), ("instances", .arr (r.instances.map InstanceReport.toJson)),
    ("started_at", Timestamp.toJson r.startedAt), ("completed_at", Timestamp.toJson r.completedAt),
    ("duration_ms", Json.ofNat r.duration)]

def padded (width : Nat) (s : String) : String :=
  s ++ String.ofList (List.replicate (width - s.length) ' ')

def seconds (millis : Nat) : String := (Duration.ofMillis millis).seconds ++ "s"

/-- How many lines of a failed instance's steps are shown at most, each. -/
def shownLines : Nat := 5

def outputLines (s : StepReport) : String :=
  String.join ((s.output.drop (s.output.length - shownLines)).map fun l => "      │ " ++ l ++ "\n")

def instanceLine (width : Nat) (i : InstanceReport) : String :=
  "  " ++ padded width i.id.display ++ "  " ++ padded 12 i.state.display ++
    (if i.state = .succeeded then "" else "  " ++ i.reason.display) ++
    (match i.duration with
      | none => ""
      | some d => "  " ++ seconds d) ++ "\n" ++
    (if i.state = .failed then String.join (i.steps.map outputLines) else "")

/-- A line for each instance, then the counts and how the run ended. The width of the first column
is measured in bytes, its filling in characters. -/
def text (r : RunReport) : String :=
  let width := (r.instances.map fun i => i.id.display.utf8ByteSize).foldl max 0
  let s := r.summary
  String.join (r.instances.map (instanceLine width)) ++ "\n" ++ toString s.succeeded ++
    " succeeded, " ++ toString s.failed ++ " failed, " ++ toString s.skippedByCondition ++
    " skipped by condition, " ++ toString s.skippedByPropagation ++ " skipped by propagation\n" ++
    (match r.status with
      | .succeeded => "✓ Run " ++ r.runId.text ++ " succeeded in "
      | .failed => "✗ Run " ++ r.runId.text ++ " failed after ") ++ seconds r.duration ++ "\n"

end RunReport

end GatedPipeline
