import GatedPipeline.Report
import GatedPipeline.Run.Context
import GatedPipeline.StepRunner

namespace GatedPipeline

structure Call where
  time : Nat
  context : StepContext
deriving DecidableEq, Repr

/-- How the steps of an instance ended; they are broken off where the runner broke down. -/
inductive StepsEnd where
  | succeeded
  | failed (reason : Reason)
  | broken
deriving DecidableEq, Repr

structure StepsRun where
  reports : List StepReport
  ending : StepsEnd
  calls : List Call
  finishedAt : Nat
deriving DecidableEq, Repr

structure InstanceRun where
  report : InstanceReport
  calls : List Call
  finishedAt : Nat
deriving DecidableEq, Repr

namespace StepEnd

def exitCode? : StepEnd → Option Int
  | .exited code _ => some code
  | .failed _ => none

/-- Why a step failed, if it did. Messages are masked like output. -/
def failure? (step : String) (secrets : ScopedSecrets) : StepEnd → Option Reason
  | .exited _ true => none
  | .exited code false => some (.stepFailed step (some code) none)
  | .failed e => some (.stepFailed step none (some (secrets.mask e.message)))

end StepEnd

namespace Execution

variable {σ : Type}

def status (failure : Option Reason) (continueOnError : Bool) : StepStatus :=
  match failure, continueOnError with
  | none, _ => .succeeded
  | some _, true => .failedIgnored
  | some _, false => .failed

def stepReport (secrets : ScopedSecrets) (step : Step) (r : StepRun) (e : StepEnd) : StepReport :=
  ⟨step.name, status (e.failure? step.name secrets) step.continueOnError, e.exitCode?, r.elapsed,
    r.output.map secrets.mask⟩

def notRun (steps : List Step) : List StepReport := steps.map fun s => .notRun s.name

/-- Runs steps one after another from the time `now` on. -/
def runSteps (c : RunContext) (n : Instance) (secrets : ScopedSecrets) (runner : StepRunner σ) :
    Nat → σ → List Step → StepsRun × σ
  | now, s, [] => (⟨[], .succeeded, [], now⟩, s)
  | now, s, step :: rest =>
    let context := c.stepContext n secrets step
    let (r, s) := runner context s
    let call : Call := ⟨now, context⟩
    match r.ending with
    | none => (⟨[], .broken, [call], now + r.elapsed⟩, s)
    | some e =>
      let report := stepReport secrets step r e
      match e.failure? step.name secrets, step.continueOnError with
      | some reason, false =>
        (⟨report :: notRun rest, .failed reason, [call], now + r.elapsed⟩, s)
      | _, _ =>
        let (later, s) := runSteps c n secrets runner (now + r.elapsed) s rest
        ({ later with reports := report :: later.reports, calls := call :: later.calls }, s)

def report (n : Instance) (state : JobState) (reason : Reason) (steps : List StepReport)
    (start finish : Nat) : InstanceReport :=
  ⟨n.id, state, reason, steps, some start, some finish, some (finish - start)⟩

def brokenMessage : String := "job task panicked"

def reportOfSteps (n : Instance) (start : Nat) (r : StepsRun) : InstanceReport :=
  match r.ending with
  | .succeeded => report n .succeeded .succeeded r.reports start r.finishedAt
  | .failed reason => report n .failed reason r.reports start r.finishedAt
  | .broken => .notStarted n.id .failed (.executionError brokenMessage) r.finishedAt

def secretFailure : SecretError → Reason
  | .missingCredential secret => .missingCredential secret
  | e => .executionError e.message

/-- Runs an instance from the time `now` on. -/
def run (c : RunContext) (store : SecretStore) (runner : StepRunner σ) (n : Instance) (now : Nat)
    (cache : SecretCache) (s : σ) : InstanceRun × SecretCache × σ :=
  match ScopedSecrets.resolve store cache n.job.secrets with
  -- Without its secrets no step of it runs.
  | (.error e, cache) =>
    (⟨report n .failed (secretFailure e) (notRun n.job.steps) now now, [], now⟩, cache, s)
  | (.ok secrets, cache) =>
    let (r, s) := runSteps c n secrets runner now s n.job.steps
    (⟨reportOfSteps n now r, r.calls, r.finishedAt⟩, cache, s)

end Execution

end GatedPipeline
