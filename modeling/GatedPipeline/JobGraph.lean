import GatedPipeline.Condition.Basic
import GatedPipeline.Definition.Fault
import GatedPipeline.Digraph
import GatedPipeline.Matrix.Basic

namespace GatedPipeline

/-- A job bound to one combination of its matrix. Dependencies are numbers of instances. -/
structure Instance where
  id : InstanceId
  job : Job
  condition : Option Condition
  dependencies : List Nat
deriving Repr

/-- Instances are numbered in the order of their jobs and of their combinations. -/
structure JobGraph where
  nodes : List Instance
deriving Repr

inductive GraphError where
  | definition (e : Error)
  | cycle (path : List String)
  | unknownDependency (job dependency : String)
  | invalidCondition (job : String) (e : Condition.Error)
deriving DecidableEq, Repr

namespace GraphError

def message : GraphError → String
  | .definition e => e.message
  | .cycle path => "cycle detected in job dependencies: " ++ " -> ".intercalate path
  | .unknownDependency job dependency => "job " ++ job ++ " needs unknown job " ++ dependency
  | .invalidCondition job e => "invalid condition on job " ++ job ++ ": " ++ e.message

def toError : GraphError → Error
  | .definition e => e
  | .cycle path => .dependencyCycle path
  | .unknownDependency job dependency => .unknownDependency job dependency
  | .invalidCondition job e => .invalidCondition job e.message

end GraphError

namespace Job

/-- One identity for each combination of the matrix; a job without a matrix has one. -/
def instanceIds (j : Job) : List InstanceId :=
  match j.matrix with
  | none => [⟨j.name, []⟩]
  | some m => m.combinations.map fun c => ⟨j.name, Matrix.rendered c⟩

end Job

namespace Pipeline

def jobIndex? (p : Pipeline) (name : String) : Option Nat := p.jobs.findIdx? (·.name == name)

def needsOf (p : Pipeline) (i : Nat) : List Nat :=
  match p.jobs[i]? with
  | none => []
  | some j => j.needs.filterMap p.jobIndex?

/-- A cycle of needs between jobs, which the expansion of matrices cannot hide. -/
def needsCycle? (p : Pipeline) : Option (List String) :=
  (Digraph.cycle? p.jobs.length p.needsOf).map fun path =>
    path.filterMap fun i => (p.jobs[i]?).map Job.name

end Pipeline

namespace JobGraph

def parseCondition (j : Job) : Except GraphError (Option Condition) :=
  match j.condition with
  | none => .ok none
  | some source =>
    match Condition.parse source with
    | .ok c => .ok (some c)
    | .error e => .error (.invalidCondition j.name e)

/-- The conditions of the jobs, up to the first that is none. -/
def parseConditions : List Job → Except GraphError (List (Job × Option Condition))
  | [] => .ok []
  | j :: js => do
    let c ← parseCondition j
    let rest ← parseConditions js
    .ok ((j, c) :: rest)

/-- The numbers of the instances of each job, counted from `start`. -/
def numbering : Nat → List Job → List (String × List Nat)
  | _, [] => []
  | start, j :: js =>
    let ids := j.instanceIds
    (j.name, List.range' start ids.length) :: numbering (start + ids.length) js

def insertAscending (x : Nat) : List Nat → List Nat
  | [] => [x]
  | y :: ys => if x < y then x :: y :: ys else if x = y then y :: ys else y :: insertAscending x ys

/-- The instances that a list of needs asks for, ascending and each once. -/
def dependenciesOf (numbers : List (String × List Nat)) (job : String) :
    List String → Except GraphError (List Nat)
  | [] => .ok []
  | need :: rest =>
    match numbers.lookup need with
    | none => .error (.unknownDependency job need)
    | some is => do
      let others ← dependenciesOf numbers job rest
      .ok (is.foldl (fun acc i => insertAscending i acc) others)

def jobNodes (numbers : List (String × List Nat)) :
    List (Job × Option Condition) → Except GraphError (List Instance)
  | [] => .ok []
  | (j, condition) :: rest => do
    let dependencies ← dependenciesOf numbers j.name j.needs
    let others ← jobNodes numbers rest
    .ok (j.instanceIds.map (⟨·, j, condition, dependencies⟩) ++ others)

def size (g : JobGraph) : Nat := g.nodes.length

def node? (g : JobGraph) (i : Nat) : Option Instance := g.nodes[i]?

def indices (g : JobGraph) : List Nat := List.range g.size

/-- The numbers of the instances that have to succeed before the one with this number. -/
def dependencies (g : JobGraph) (i : Nat) : List Nat :=
  match g.node? i with
  | none => []
  | some n => n.dependencies

/-- The numbers of the instances that wait for the one with this number. -/
def dependents (g : JobGraph) (i : Nat) : List Nat :=
  g.indices.filter fun j => (g.dependencies j).contains i

def instancesOf (g : JobGraph) (job : String) : List Instance :=
  g.nodes.filter (·.job.name == job)

def display (g : JobGraph) (i : Nat) : String :=
  match g.node? i with
  | none => ""
  | some n => n.id.display

def order? (g : JobGraph) : Option (List Nat) := Digraph.order? g.size g.dependencies

/-- Builds the graph of a definition: its structure comes before a cycle, and a cycle before a
condition. -/
def build (p : Pipeline) : Except GraphError JobGraph :=
  match p.check with
  | .error e => .error (.definition e)
  | .ok () =>
    match p.needsCycle? with
    | some path => .error (.cycle path)
    | none => do
      let jobs ← parseConditions p.jobs
      let nodes ← jobNodes (numbering 0 p.jobs) jobs
      let g : JobGraph := ⟨nodes⟩
      -- Where no needs go round, no dependencies do.
      match Digraph.cycle? g.size g.dependencies with
      | some path => .error (.cycle ((path.take 1).map g.display))
      | none => .ok g

end JobGraph

end GatedPipeline
