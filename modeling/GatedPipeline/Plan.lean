import GatedPipeline.JobGraph

namespace GatedPipeline

structure PlannedInstance where
  id : InstanceId
  needs : List InstanceId
  condition : Option String
  gateOpen : Bool
deriving DecidableEq, Repr

structure Plan where
  pipelineName : String
  event : Event
  triggered : Bool
  instances : List PlannedInstance
deriving DecidableEq, Repr

namespace Plan

def planned (g : JobGraph) (event : Event) (n : Instance) : PlannedInstance :=
  ⟨n.id, n.dependencies.filterMap fun i => (g.node? i).map Instance.id,
    n.condition.map Condition.source, Condition.gateOpen n.condition event⟩

/-- The plan lists all instances, even for an event that no trigger takes. -/
def make (p : Pipeline) (event : Event) : Except GraphError Plan :=
  (JobGraph.build p).map fun g =>
    ⟨p.name, event, Trigger.anyAccepts p.triggers event, g.nodes.map (planned g event)⟩

def plannedJson (i : PlannedInstance) : Json :=
  .obj ([("id", i.id.toJson), ("needs", .arr (i.needs.map InstanceId.toJson))] ++
    (match i.condition with
      | none => []
      | some c => [("condition", .str c)]) ++
    [("gate_open", .bool i.gateOpen)])

def toJson (p : Plan) : Json :=
  .obj [("pipeline_name", .str p.pipelineName), ("event", .str p.event.kind.text),
    ("git_ref", .str p.event.gitRef), ("triggered", .bool p.triggered),
    ("instances", .arr (p.instances.map plannedJson))]

end Plan

end GatedPipeline
