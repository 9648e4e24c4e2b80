import GatedPipeline.Run.Execution
import GatedPipeline.Run.Progress

namespace GatedPipeline

structure Flight where
  instanceNumber : Nat
  run : InstanceRun
deriving DecidableEq, Repr

/-- Chooses which of the running instances completes next, by its place in their list, which is
taken to go round. -/
abbrev CompletionOrder := List Flight → Nat

namespace CompletionOrder

/-- The instance that finishes first; of several, the one that was started first. -/
def byTime : CompletionOrder := fun flights =>
  flights.findIdx fun f => flights.all fun other => f.run.finishedAt ≤ other.run.finishedAt

def next? (order : CompletionOrder) : List Flight → Option (Flight × List Flight)
  | [] => none
  | f :: fs =>
    let i := order (f :: fs) % (fs.length + 1)
    some (((f :: fs)[i]?).getD f, (f :: fs).eraseIdx i)

end CompletionOrder

/-- A run under way. The runner's state and the secrets found so far go from one instance to the
next in the order in which they start. -/
structure Session (σ : Type) where
  progress : Progress
  flights : List Flight
  calls : List Call
  cache : SecretCache
  runnerState : σ
  now : Nat

namespace Scheduler

variable {σ : Type}

def launch (c : RunContext) (store : SecretStore) (runner : StepRunner σ) (g : JobGraph)
    (s : Session σ) (i : Nat) : Session σ :=
  match g.node? i with
  | none => s
  | some n =>
    let (run, cache, runnerState) :=
      Execution.run c store runner n s.now s.cache s.runnerState
    { s with
      progress := s.progress.start i
      flights := s.flights ++ [⟨i, run⟩]
      calls := s.calls ++ run.calls
      cache := cache
      runnerState := runnerState }

/-- Whatever is ready starts at once, in the order of the instances. -/
def launchReady (c : RunContext) (store : SecretStore) (runner : StepRunner σ) (g : JobGraph)
    (s : Session σ) : Session σ :=
  (s.progress.ready g).foldl (launch c store runner g) s

def land (g : JobGraph) (f : Flight) (rest : List Flight) (s : Session σ) : Session σ :=
  { s with
    progress := s.progress.complete g f.run.finishedAt f.instanceNumber f.run.report
    flights := rest
    now := f.run.finishedAt }

/-- Up to `n` completions, each followed by the start of what became ready. -/
def completions (c : RunContext) (store : SecretStore) (runner : StepRunner σ)
    (order : CompletionOrder) (g : JobGraph) : Nat → Session σ → Session σ
  | 0, s => s
  | n + 1, s =>
    match order.next? s.flights with
    | none => s
    | some (f, rest) =>
      completions c store runner order g n (launchReady c store runner g (land g f rest s))

def opening (c : RunContext) (g : JobGraph) (now : Nat) (s : σ) : Session σ :=
  ⟨Progress.afterGates g c.event now, [], [], [], s, now⟩

/-- The run of a graph from the time `now` on. -/
def run (c : RunContext) (store : SecretStore) (runner : StepRunner σ) (order : CompletionOrder)
    (g : JobGraph) (now : Nat) (s : σ) : Session σ :=
  -- No instance runs twice: there are no more completions than instances.
  let session := completions c store runner order g g.size
    (launchReady c store runner g (opening c g now s))
  { session with progress := session.progress.close g session.now }

end Scheduler

end GatedPipeline
