import GatedPipeline.Run.Scheduler

namespace GatedPipeline

inductive RunEvent where
  | runStarted (pipeline : String) (event : Event) (instances : Nat)
  | jobStarted (id : InstanceId)
  | jobFinished (id : InstanceId) (state : JobState) (reason : Reason) (duration : Option Nat)
  | runFinished (status : RunStatus) (duration : Nat)
deriving DecidableEq, Repr

inductive RunOutcome where
  | notTriggered
  | completed (report : RunReport)
deriving DecidableEq, Repr

/-- Calls stand in the order in which the runner got them. -/
structure RunRecord (σ : Type) where
  outcome : RunOutcome
  events : List RunEvent
  calls : List Call
  runnerState : σ

namespace RunEvent

def ofMilestone (g : JobGraph) : Milestone → RunEvent
  | .started i => .jobStarted (Progress.idOf g i)
  | .finished _ report => .jobFinished report.id report.state report.reason report.duration

end RunEvent

structure RunSetup (σ : Type) where
  runId : RunId
  startedAt : Nat
  workspace : String
  defaultTimeout : Option Duration
  store : SecretStore
  runner : StepRunner σ
  order : CompletionOrder

namespace Pipeline

variable {σ : Type}

def context (p : Pipeline) (setup : RunSetup σ) (event : Event) : RunContext :=
  ⟨setup.runId, event, p.env, setup.workspace, setup.defaultTimeout⟩

def reportOf (p : Pipeline) (setup : RunSetup σ) (event : Event) (s : Session σ) : RunReport :=
  let instances := s.progress.reports
  ⟨setup.runId, p.name, event, RunStatus.aggregate instances, instances, setup.startedAt,
    s.now⟩

def executeGraph (p : Pipeline) (setup : RunSetup σ) (event : Event) (g : JobGraph) (s : σ) :
    RunRecord σ :=
  let session :=
    Scheduler.run (p.context setup event) setup.store setup.runner setup.order g setup.startedAt s
  let report := p.reportOf setup event session
  { outcome := .completed report
    events :=
      .runStarted p.name event g.size ::
        (session.progress.milestones.map (RunEvent.ofMilestone g) ++
          [.runFinished report.status report.duration])
    calls := session.calls.mergeSort fun a b => a.time ≤ b.time
    runnerState := session.runnerState }

/-- Nothing starts for an event that no trigger takes, nor when the definition is in error. -/
def execute (p : Pipeline) (setup : RunSetup σ) (event : Event) (s : σ) :
    Except GraphError (RunRecord σ) :=
  if Trigger.anyAccepts p.triggers event then
    (JobGraph.build p).map fun g => p.executeGraph setup event g s
  else .ok ⟨.notTriggered, [], [], s⟩

end Pipeline

end GatedPipeline
