import GatedPipeline.Definition.Basic
import GatedPipeline.Error
import GatedPipeline.Json.Printer
import GatedPipeline.Matrix.Basic
import GatedPipeline.Text.Blank

namespace GatedPipeline.Matrix

inductive Fault where
  | notScalar (axis : String) (value : Json)
  | repeated (axis : String) (value : Json)
  | entryNotScalar (key : String)
  | unknownAxis (key : String)
deriving Repr

def Fault.message : Fault → String
  | .notScalar axis value => "axis " ++ axis ++ " has a non-scalar value " ++ value.compact
  | .repeated axis value => "axis " ++ axis ++ " lists " ++ value.compact ++ " more than once"
  | .entryNotScalar key => "include/exclude key " ++ key ++ " is not a scalar"
  | .unknownAxis key => "exclude references unknown axis " ++ key

/-- Two values of an axis are the same if their texts are. -/
def valueFaults (axis : String) : List String → List Json → List Fault
  | _, [] => []
  | seen, v :: vs =>
    match v.scalarText? with
    | none => .notScalar axis v :: valueFaults axis seen vs
    | some t =>
      if seen.contains t then .repeated axis v :: valueFaults axis seen vs
      else valueFaults axis (t :: seen) vs

def axisFaults (a : Axis) : List Fault := valueFaults a.name [] a.values

def entryFaults (e : MatrixEntry) : List Fault :=
  e.filterMap fun p => if p.2.scalarText?.isNone then some (.entryNotScalar p.1) else none

def excludeFaults (m : Matrix) (e : MatrixEntry) : List Fault :=
  e.filterMap fun p => if (m.axis? p.1).isNone then some (.unknownAxis p.1) else none

/-- All faults, in the order in which they are told. -/
def faults (m : Matrix) : List Fault :=
  m.axes.flatMap axisFaults ++ (m.inclusions ++ m.exclusions).flatMap entryFaults ++
    m.exclusions.flatMap m.excludeFaults

end GatedPipeline.Matrix

namespace GatedPipeline.Pipeline

inductive Fault where
  | noJobs
  | emptyJobName
  | duplicateJob (job : String)
  | unknownDependency (job dependency : String)
  | emptyCommand (step job : String)
  | matrix (job : String) (fault : Matrix.Fault)
deriving Repr

def Fault.toError : Fault → Error
  | .noJobs => .invalidPipeline "pipeline has no jobs"
  | .emptyJobName => .invalidPipeline "job with empty name"
  | .duplicateJob job => .duplicateJob job
  | .unknownDependency job dependency => .unknownDependency job dependency
  | .emptyCommand step job =>
    .invalidPipeline ("step " ++ step ++ " in job " ++ job ++ " has an empty command")
  | .matrix job fault => .invalidMatrix job fault.message

def nameFaults : List String → List Job → List Fault
  | _, [] => []
  | seen, j :: js =>
    (if Text.isBlankText j.name then [.emptyJobName] else []) ++
      (if seen.contains j.name then [.duplicateJob j.name] else []) ++
        nameFaults (j.name :: seen) js

def jobFaults (names : List String) (j : Job) : List Fault :=
  (j.needs.filter (!names.contains ·)).map (.unknownDependency j.name) ++
    (j.steps.filter fun s => Text.isBlankText s.run).map (.emptyCommand ·.name j.name) ++
      (match j.matrix with
        | none => []
        | some m => m.faults.map (.matrix j.name))

def faults (p : Pipeline) : List Fault :=
  (if p.jobs.isEmpty then [.noJobs] else []) ++ nameFaults [] p.jobs ++
    p.jobs.flatMap (jobFaults (p.jobs.map Job.name))

/-- The first fault is the one that counts. -/
def check (p : Pipeline) : Except Error Unit :=
  match p.faults with
  | [] => .ok ()
  | f :: _ => .error f.toError

end GatedPipeline.Pipeline
