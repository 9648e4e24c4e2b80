import GatedPipeline.Proofs.Execution
import GatedPipeline.Proofs.FirstStop

namespace GatedPipeline

structure Attempt where
  step : Step
  outcome : StepRun

namespace Attempt

def succeeds (a : Attempt) : Bool :=
  match a.outcome.ending with
  | some (.exited _ success) => success
  | _ => false

/-- The step fails and may not: it is the last one that runs. -/
def aborts (a : Attempt) : Bool := !a.succeeds && !a.step.continueOnError

def status (a : Attempt) : StepStatus :=
  if a.succeeds then .succeeded
  else if a.step.continueOnError then .failedIgnored
  else .failed

def exitCode? (a : Attempt) : Option Int :=
  match a.outcome.ending with
  | some (.exited code _) => some code
  | _ => none

/-- What the runner says where there is no exit code, with the secrets in it hidden. -/
def message? (secrets : ScopedSecrets) (a : Attempt) : Option String :=
  match a.outcome.ending with
  | some (.failed e) => some (secrets.mask e.message)
  | _ => none

def report (secrets : ScopedSecrets) (a : Attempt) : StepReport :=
  ⟨a.step.name, a.status, a.exitCode?, a.outcome.elapsed, a.outcome.output.map secrets.mask⟩

def reason (secrets : ScopedSecrets) (a : Attempt) : Reason :=
  .stepFailed a.step.name a.exitCode? (a.message? secrets)

variable {a : Attempt} {e : StepEnd}

theorem status_eq_failed_iff : a.status = .failed ↔ a.aborts = true := by
  unfold status aborts
  cases a.succeeds <;> cases a.step.continueOnError <;> decide

theorem failure?_of_succeeds (h : a.outcome.ending = some e) (ha : a.succeeds = true)
    (secrets : ScopedSecrets) : e.failure? a.step.name secrets = none := by
  rw [succeeds, h] at ha
  cases e with
  | exited code success =>
    cases ha
    rfl
  | failed e => cases ha

theorem failure?_of_fails (h : a.outcome.ending = some e) (ha : a.succeeds = false)
    (secrets : ScopedSecrets) : e.failure? a.step.name secrets = some (a.reason secrets) := by
  rw [reason, exitCode?, message?, h]
  rw [succeeds, h] at ha
  cases e with
  | exited code success =>
    cases ha
    rfl
  | failed e => rfl

theorem stepReport_eq (h : a.outcome.ending = some e) (secrets : ScopedSecrets) :
    Execution.stepReport secrets a.step a.outcome e = a.report secrets := by
  have hstatus : Execution.status (e.failure? a.step.name secrets) a.step.continueOnError =
      a.status := by
    unfold status
    cases ha : a.succeeds with
    | true =>
      rw [failure?_of_succeeds h ha, if_pos rfl]
      rfl
    | false =>
      rw [failure?_of_fails h ha, if_neg Bool.false_ne_true]
      cases a.step.continueOnError <;> rfl
  have hcode : e.exitCode? = a.exitCode? := by
    rw [exitCode?, h]
    cases e <;> rfl
  rw [Execution.stepReport, hstatus, hcode, report]

end Attempt

namespace StepRunner

variable {σ : Type}

/-- Every step comes to an end: the runner never breaks down. -/
def Completes (runner : StepRunner σ) : Prop :=
  ∀ context s, ∃ e, (runner context s).1.ending = some e

/-- What comes of steps if all of them are handed to the runner, one after another. -/
def attempts (runner : StepRunner σ) (context : Step → StepContext) : σ → List Step → List Attempt
  | _, [] => []
  | s, step :: rest =>
    ⟨step, (runner (context step) s).1⟩ :: attempts runner context (runner (context step) s).2 rest

/-- The state of a runner to which exactly these contexts have been handed, in their order. -/
def after (runner : StepRunner σ) (s : σ) (contexts : List StepContext) : σ :=
  contexts.foldl (fun s c => (runner c s).2) s

theorem steps_attempts (runner : StepRunner σ) (context : Step → StepContext) (s : σ)
    (steps : List Step) : (runner.attempts context s steps).map Attempt.step = steps := by
  induction steps generalizing s with
  | nil => rfl
  | cons step rest ih => rw [attempts, List.map_cons, ih]

end StepRunner

namespace Execution

variable {σ : Type} {c : RunContext} {n : Instance} {secrets : ScopedSecrets}
  {runner : StepRunner σ} {s : σ} {step : Step} {steps rest : List Step} {r : StepsRun × σ}

/-- The steps have been run up to the first that aborts. -/
structure FailsFast (c : RunContext) (n : Instance) (secrets : ScopedSecrets)
    (runner : StepRunner σ) (s : σ) (steps : List Step) (r : StepsRun × σ) : Prop where
  calls : r.1.calls.map Call.context =
    (throughFirst Attempt.aborts (runner.attempts (c.stepContext n secrets) s steps)).map
      fun a => c.stepContext n secrets a.step
  runnerState : r.2 = runner.after s (r.1.calls.map Call.context)
  reports : r.1.reports =
    (throughFirst Attempt.aborts (runner.attempts (c.stepContext n secrets) s steps)).map
        (Attempt.report secrets) ++
      notRun (steps.drop
        (throughFirst Attempt.aborts (runner.attempts (c.stepContext n secrets) s steps)).length)
  ending : r.1.ending =
    match (runner.attempts (c.stepContext n secrets) s steps).find? Attempt.aborts with
    | none => .succeeded
    | some a => .failed (a.reason secrets)

/-- One step: it is the last one, or the others follow it. -/
theorem runSteps_cons (h : runner.Completes) (now : Nat) :
    let a : Attempt := ⟨step, (runner (c.stepContext n secrets step) s).1⟩
    let call : Call := ⟨now, c.stepContext n secrets step⟩
    let later := runSteps c n secrets runner (now + a.outcome.elapsed)
      (runner (c.stepContext n secrets step) s).2 rest
    runSteps c n secrets runner now s (step :: rest) =
      if a.aborts then
        (⟨a.report secrets :: notRun rest, .failed (a.reason secrets), [call],
          now + a.outcome.elapsed⟩, (runner (c.stepContext n secrets step) s).2)
      else
        ({ later.1 with
            reports := a.report secrets :: later.1.reports
            calls := call :: later.1.calls }, later.2) := by
  intro a call later
  obtain ⟨e, he⟩ := h (c.stepContext n secrets step) s
  have hreport : stepReport secrets step (runner (c.stepContext n secrets step) s).1 e =
      a.report secrets := Attempt.stepReport_eq (a := a) he secrets
  unfold runSteps
  simp only [he, hreport]
  cases ha : a.succeeds with
  | true =>
    have hnone : e.failure? step.name secrets = none := Attempt.failure?_of_succeeds he ha secrets
    simp [hnone, Attempt.aborts, ha, later, call, a]
  | false =>
    have hsome : e.failure? step.name secrets = some (a.reason secrets) :=
      Attempt.failure?_of_fails he ha secrets
    cases hexcused : step.continueOnError with
    | true => simp [hsome, Attempt.aborts, ha, hexcused, later, call, a]
    | false => simp [hsome, Attempt.aborts, ha, hexcused, call, a]

theorem failsFast_runSteps (h : runner.Completes) (c : RunContext) (n : Instance)
    (secrets : ScopedSecrets) (now : Nat) (s : σ) (steps : List Step) :
    FailsFast c n secrets runner s steps (runSteps c n secrets runner now s steps) := by
  induction steps generalizing now s with
  | nil => exact ⟨rfl, rfl, rfl, rfl⟩
  | cons step rest ih =>
    obtain ⟨hcalls, hstate, hreports, hending⟩ :=
      ih (now + (runner (c.stepContext n secrets step) s).1.elapsed)
        (runner (c.stepContext n secrets step) s).2
    rw [runSteps_cons h now]
    dsimp only
    -- The attempt at this step decides whether there is a later one.
    split
    · rename_i ha
      refine ⟨?_, rfl, ?_, ?_⟩
      · simp [StepRunner.attempts, throughFirst, ha]
      · simp [StepRunner.attempts, throughFirst, ha]
      · simp [StepRunner.attempts, ha]
    · rename_i ha
      refine ⟨?_, ?_, ?_, ?_⟩
      · simp [StepRunner.attempts, throughFirst, ha, hcalls]
      · exact hstate
      · simp [StepRunner.attempts, throughFirst, ha, hreports]
      · simp [StepRunner.attempts, ha, hending]

/-- Either no attempt aborts, and all steps ran, or one does, and it was the last. -/
theorem FailsFast.ended (h : FailsFast c n secrets runner s steps r) :
    let attempts := runner.attempts (c.stepContext n secrets) s steps
    (r.1.ending = .succeeded ∧ throughFirst Attempt.aborts attempts = attempts ∧
        ∀ a ∈ attempts, a.aborts = false) ∨
      ∃ before a, r.1.ending = .failed (a.reason secrets) ∧
        throughFirst Attempt.aborts attempts = before ++ [a] ∧ a.aborts = true ∧
        ∀ b ∈ before, b.aborts = false := by
  intro attempts
  have hending := h.ending
  cases hfirst : attempts.find? Attempt.aborts with
  | none =>
    have hall : ∀ a ∈ attempts, a.aborts = false := by
      simpa using List.find?_eq_none.mp hfirst
    rw [hfirst] at hending
    exact .inl ⟨hending, throughFirst_eq_self hall, hall⟩
  | some a =>
    obtain ⟨ha, before, after, hattempts, hbefore⟩ := List.find?_eq_some_iff_append.mp hfirst
    have hgoes : ∀ b ∈ before, b.aborts = false := by simpa using hbefore
    rw [hfirst] at hending
    refine .inr ⟨before, a, hending, ?_, ha, hgoes⟩
    rw [hattempts]
    exact throughFirst_append_cons hgoes ha

theorem steps_called (runner : StepRunner σ) (context : Step → StepContext) (s : σ)
    (steps : List Step) :
    (throughFirst Attempt.aborts (runner.attempts context s steps)).map Attempt.step =
      steps.take (throughFirst Attempt.aborts (runner.attempts context s steps)).length := by
  have hprefix := throughFirst_begins Attempt.aborts (runner.attempts context s steps)
  have htake := congrArg (List.map Attempt.step) (List.prefix_iff_eq_take.mp hprefix)
  rwa [List.map_take, StepRunner.steps_attempts] at htake

theorem names_notRun (steps : List Step) :
    (notRun steps).map StepReport.name = steps.map Step.name := by
  rw [notRun, List.map_map]
  rfl

/-- Each step has its report, and in the order of the steps. -/
theorem FailsFast.names (h : FailsFast c n secrets runner s steps r) :
    r.1.reports.map StepReport.name = steps.map Step.name := by
  have hcalled := congrArg (List.map Step.name)
    (steps_called runner (c.stepContext n secrets) s steps)
  rw [List.map_map] at hcalled
  calc r.1.reports.map StepReport.name
      = (steps.take _).map Step.name ++ (steps.drop _).map Step.name := by
        rw [h.reports, List.map_append, List.map_map, names_notRun, ← hcalled]
        rfl
    _ = steps.map Step.name := by rw [← List.map_append, List.take_append_drop]

/-- A report of a failed step is that of an attempt that aborts. -/
theorem FailsFast.failed_iff (h : FailsFast c n secrets runner s steps r) :
    (∃ p ∈ r.1.reports, p.status = .failed) ↔
      ∃ a ∈ throughFirst Attempt.aborts (runner.attempts (c.stepContext n secrets) s steps),
        a.aborts = true := by
  have hlater : ∀ later, ∀ p ∈ notRun later, p.status ≠ .failed := by
    intro later p hp
    obtain ⟨step, _, rfl⟩ := List.mem_map.mp hp
    exact StepStatus.noConfusion
  rw [h.reports]
  constructor
  · rintro ⟨p, hp, hfailed⟩
    rcases List.mem_append.mp hp with hp | hp
    · obtain ⟨a, ha, rfl⟩ := List.mem_map.mp hp
      exact ⟨a, ha, Attempt.status_eq_failed_iff.mp hfailed⟩
    · exact absurd hfailed (hlater _ p hp)
  · rintro ⟨a, ha, haborts⟩
    refine ⟨a.report secrets, List.mem_append_left _ (List.mem_map_of_mem ha), ?_⟩
    exact Attempt.status_eq_failed_iff.mpr haborts

theorem run_of_secrets_error {store : SecretStore} {cache : SecretCache} {why : SecretError}
    (h : (ScopedSecrets.resolve store cache n.job.secrets).1 = .error why) (c : RunContext)
    (runner : StepRunner σ) (now : Nat) (s : σ) :
    ∃ cache', run c store runner n now cache s =
      (⟨report n .failed (secretFailure why) (notRun n.job.steps) now now, [], now⟩, cache', s) := by
  unfold run
  split
  · rename_i e cache' hres
    rw [hres] at h
    cases h
    exact ⟨cache', rfl⟩
  · rename_i hres
    rw [hres] at h
    cases h

theorem run_of_secrets_ok {store : SecretStore} {cache : SecretCache}
    (h : (ScopedSecrets.resolve store cache n.job.secrets).1 = .ok secrets) (c : RunContext)
    (runner : StepRunner σ) (now : Nat) (s : σ) :
    let r := runSteps c n secrets runner now s n.job.steps
    ∃ cache', run c store runner n now cache s =
      (⟨reportOfSteps n now r.1, r.1.calls, r.1.finishedAt⟩, cache', r.2) := by
  intro r
  unfold run
  split
  · rename_i hres
    rw [hres] at h
    cases h
  · rename_i secrets' cache' hres
    rw [hres] at h
    cases h
    exact ⟨cache', rfl⟩

/-- The report of an instance whose steps came to an end. -/
theorem FailsFast.reportOfSteps (h : FailsFast c n secrets runner s steps r) (start : Nat) :
    let called := throughFirst Attempt.aborts (runner.attempts (c.stepContext n secrets) s steps)
    let p := Execution.reportOfSteps n start r.1
    p.steps = r.1.reports ∧
      ((p.state = .succeeded ∧ p.reason = .succeeded ∧
          called = runner.attempts (c.stepContext n secrets) s steps ∧
          ∀ a ∈ called, a.aborts = false) ∨
        ∃ before a, p.state = .failed ∧ p.reason = a.reason secrets ∧ called = before ++ [a] ∧
          a.aborts = true ∧ ∀ b ∈ before, b.aborts = false) := by
  intro called p
  rcases h.ended with ⟨hending, hall, hgoes⟩ | ⟨before, a, hending, hcalled, ha, hgoes⟩
  · have hp : p = report n .succeeded .succeeded r.1.reports start r.1.finishedAt := by
      simp only [p, Execution.reportOfSteps, hending]
    rw [hp]
    refine ⟨rfl, .inl ⟨rfl, rfl, hall, fun a ha => hgoes a ?_⟩⟩
    exact (throughFirst_begins _ _).subset ha
  · have hp : p = report n .failed (a.reason secrets) r.1.reports start r.1.finishedAt := by
      simp only [p, Execution.reportOfSteps, hending]
    rw [hp]
    exact ⟨rfl, .inr ⟨before, a, rfl, rfl, hcalled, ha, hgoes⟩⟩

/-- The instance fails exactly if one of its steps did, and then this step is the reason. -/
theorem FailsFast.concluded (h : FailsFast c n secrets runner s steps r) (start : Nat) :
    let attempts := runner.attempts (c.stepContext n secrets) s steps
    let p := Execution.reportOfSteps n start r.1
    (p.state = .failed ↔ ∃ q ∈ p.steps, q.status = .failed) ∧
      (p.state ≠ .failed → p.state = .succeeded ∧ p.reason = .succeeded ∧
        throughFirst Attempt.aborts attempts = attempts) ∧
      ∀ a ∈ throughFirst Attempt.aborts attempts, a.status = .failed →
        p.reason = a.reason secrets := by
  intro attempts p
  obtain ⟨hreports, hended⟩ := h.reportOfSteps start
  rw [show p.steps = r.1.reports from hreports, h.failed_iff]
  simp only [Attempt.status_eq_failed_iff]
  rcases hended with ⟨hstate, hreason, hall, hgoes⟩ |
    ⟨before, a, hstate, hreason, hcalled, ha, hgoes⟩
  · have hnone : ∀ a ∈ throughFirst Attempt.aborts attempts, a.aborts ≠ true :=
      fun a ha haborts => Bool.false_ne_true ((hgoes a ha).symm.trans haborts)
    refine ⟨⟨fun hfailed => ?_, fun ⟨a, ha, haborts⟩ => absurd haborts (hnone a ha)⟩,
      fun _ => ⟨hstate, hreason, hall⟩, fun a ha haborts => absurd haborts (hnone a ha)⟩
    cases hstate.symm.trans hfailed
  · have hlast : ∀ b ∈ throughFirst Attempt.aborts attempts, b.aborts = true → b = a := by
      intro b hb haborts
      rw [hcalled] at hb
      rcases List.mem_append.mp hb with hb | hb
      · cases (hgoes b hb).symm.trans haborts
      · exact List.mem_singleton.mp hb
    refine ⟨⟨fun _ => ⟨a, ?_, ha⟩, fun _ => hstate⟩, fun hnot => absurd hstate hnot, ?_⟩
    · exact hcalled ▸ List.mem_append_right before (List.mem_singleton_self a)
    · intro b hb haborts
      rw [hlast b hb haborts]
      exact hreason

/-- An instance reports each of its steps, in their order. Without its secrets none of them runs.
With them the runner is handed the steps one after another, each once, up to the first that fails
and is not excused, and nothing else. These are reported as they ended, the others as not run; the
instance fails exactly if a step did, which can only be the last one that ran, and then it is named
as the reason, with its exit code or with the message, in which the secrets are hidden. -/
theorem steps_fail_fast (h : runner.Completes) (c : RunContext) (store : SecretStore)
    (n : Instance) (now : Nat) (cache : SecretCache) (s : σ) :
    let r := run c store runner n now cache s
    r.1.report.steps.map StepReport.name = n.job.steps.map Step.name ∧
    (∀ why, (ScopedSecrets.resolve store cache n.job.secrets).1 = .error why →
      r.1.calls = [] ∧ r.2.2 = s ∧ r.1.report.state = .failed ∧
        r.1.report.steps = n.job.steps.map fun step => .notRun step.name) ∧
    ∀ secrets, (ScopedSecrets.resolve store cache n.job.secrets).1 = .ok secrets →
      let attempts := runner.attempts (c.stepContext n secrets) s n.job.steps
      let called := throughFirst Attempt.aborts attempts
      called.map Attempt.step = n.job.steps.take called.length ∧
      r.1.calls.map Call.context = called.map (fun a => c.stepContext n secrets a.step) ∧
      r.2.2 = runner.after s (r.1.calls.map Call.context) ∧
      r.1.report.steps = called.map (Attempt.report secrets) ++
        (n.job.steps.drop called.length).map (fun step => .notRun step.name) ∧
      (∀ a ∈ called.dropLast, a.status ≠ .failed) ∧
      (r.1.report.state = .failed ↔ ∃ p ∈ r.1.report.steps, p.status = .failed) ∧
      (r.1.report.state ≠ .failed → r.1.report.state = .succeeded ∧
        r.1.report.reason = .succeeded ∧ called = attempts) ∧
      ∀ a ∈ called, a.status = .failed → r.1.report.reason = a.reason secrets := by
  intro r
  cases hres : (ScopedSecrets.resolve store cache n.job.secrets).1 with
  | error why =>
    obtain ⟨cache', hrun⟩ := run_of_secrets_error hres c runner now s
    have hr : r = _ := hrun
    rw [hr]
    refine ⟨?_, fun _ _ => ⟨rfl, rfl, rfl, rfl⟩, fun _ h => nomatch h⟩
    exact names_notRun n.job.steps
  | ok secrets =>
    obtain ⟨cache', hrun⟩ := run_of_secrets_ok hres c runner now s
    have hr : r = _ := hrun
    have hsteps := failsFast_runSteps h c n secrets now s n.job.steps
    have hreports := (hsteps.reportOfSteps now).1
    rw [hr]
    refine ⟨?_, (fun _ h => nomatch h), ?_⟩
    · rw [hreports]
      exact hsteps.names
    · intro secrets' hsecrets attempts called
      cases hsecrets
      refine ⟨steps_called runner (c.stepContext n secrets) s n.job.steps, hsteps.calls,
        hsteps.runnerState, hreports.trans hsteps.reports, fun a ha hfailed => ?_,
        hsteps.concluded now⟩
      cases (stops_dropLast_throughFirst ha).symm.trans (Attempt.status_eq_failed_iff.mp hfailed)

/-- Exits with a code of the step's own, and keeps the names of the steps it was handed. -/
def exiting (codes : List (String × Int)) : StepRunner (List String) := fun context names =>
  let code := (codes.lookup context.stepName).getD 0
  (⟨[context.stepName], some (.exited code (code == 0)), 1⟩, names ++ [context.stepName])

def makeStep (name : String) (continueOnError : Bool) : Step :=
  ⟨name, "make " ++ name, "bash", none, [], continueOnError, none⟩

def releaseInstance : Instance where
  id := ⟨"release", []⟩
  job := ⟨"release", none, [], none, none, [], [],
    [makeStep "lint" true, makeStep "build" false, makeStep "test" false, makeStep "publish" false]⟩
  condition := none
  dependencies := []

/-- Two of the steps fail: the one that may, and the one at which the instance stops. -/
theorem steps_fail_fast_release :
    let c : RunContext := ⟨⟨0⟩, ⟨.push, "refs/heads/main"⟩, [], "/work", none⟩
    let r := run c .empty (exiting [("lint", 1), ("test", 2)]) releaseInstance 0 [] []
    r.2.2 = ["lint", "build", "test"] ∧
      r.1.report.steps.map (fun p => (p.name, p.status, p.exitCode)) =
        [("lint", .failedIgnored, some 1), ("build", .succeeded, some 0),
          ("test", .failed, some 2), ("publish", .notRun, none)] ∧
      r.1.report.state = .failed ∧ r.1.report.reason = .stepFailed "test" (some 2) none := by
  intro c r
  have hcompletes : (exiting [("lint", 1), ("test", 2)]).Completes := fun _ _ => ⟨_, rfl⟩
  obtain ⟨_, _, hok⟩ := steps_fail_fast hcompletes c .empty releaseInstance 0 [] []
  obtain ⟨_, hcalls, hstate, hreports, _, hfailed, _, hreason⟩ := hok .none rfl
  refine ⟨?_, ?_, ?_, ?_⟩
  · rw [hstate, hcalls]
    rfl
  · rw [hreports]
    rfl
  · rw [hfailed, hreports]
    exact ⟨_, .tail _ (.tail _ (.head _)), rfl⟩
  · exact hreason _ (.tail _ (.tail _ (.head _))) rfl

end Execution

end GatedPipeline
