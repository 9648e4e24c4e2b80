import GatedPipeline.Proofs.Agreement
import GatedPipeline.Proofs.Redaction

namespace GatedPipeline

/-- A runner for which it does not matter what the environment holds. -/
def StepRunner.IgnoresEnv {σ : Type} (runner : StepRunner σ) (act : StepContext → StepRun) : Prop :=
  ∀ c s, (runner c s).1 = act { c with env := [] }

theorem StepRunner.ignoresEnv_scripted (script : Bindings ScriptedStep) :
    (scripted script).IgnoresEnv fun c => (scripted script c ()).1 :=
  fun _ _ => rfl

/-- The same names, and the same values for all but the given ones. -/
abbrev Bindings.EqualApart (names : List String) (m m' : Bindings String) : Prop :=
  m.AlikeBy (fun name v w => name ∈ names ∨ v = w) m'

/-- Contexts that differ in the values of the given variables only. -/
structure StepContext.EqualApart (names : List String) (a b : StepContext) : Prop where
  stepName : a.stepName = b.stepName
  command : a.command = b.command
  shell : a.shell = b.shell
  workspace : a.workspace = b.workspace
  workingDirectory : a.workingDirectory = b.workingDirectory
  timeout : a.timeout = b.timeout
  env : a.env.EqualApart names b.env

/-- Two calls for the same step of an instance, with other secrets. -/
structure Call.EqualApart (c : RunContext) (n : Instance) (a b : Call) : Prop where
  step : ∃ step ∈ n.job.steps, ∃ secrets secrets', a.context = c.stepContext n secrets step ∧
    b.context = c.stepContext n secrets' step
  contexts : a.context.EqualApart (n.job.secrets.map (·.name)) b.context

/-- Such calls, each as long after the start of its run as the other. -/
def Call.Alike (c : RunContext) (n : Instance) (start start' : Nat) (a b : Call) : Prop :=
  a.time + start' = b.time + start ∧ a.EqualApart c n b

structure StepsRun.EqualApart (c : RunContext) (n : Instance) (start start' : Nat)
    (x y : StepsRun) : Prop where
  reports : x.reports.map StepReport.redacted = y.reports.map StepReport.redacted
  ending : x.ending.redacted = y.ending.redacted
  calls : List.Forall₂ (Call.Alike c n start start') x.calls y.calls
  finishedAt : x.finishedAt + start' = y.finishedAt + start

structure InstanceRun.EqualApart (c : RunContext) (n : Instance) (start start' : Nat)
    (x y : InstanceRun) : Prop where
  report : x.report.redacted = y.report.redacted
  calls : List.Forall₂ (Call.Alike c n start start') x.calls y.calls
  finishedAt : x.finishedAt + start' = y.finishedAt + start

theorem StepsRun.EqualApart.cons {c : RunContext} {n : Instance} {start start' : Nat}
    {x y : StepsRun} (h : x.EqualApart c n start start' y) {r r' : StepReport}
    (hr : r.redacted = r'.redacted) {a b : Call} (hcall : Call.Alike c n start start' a b) :
    EqualApart c n start start' { x with reports := r :: x.reports, calls := a :: x.calls }
      { y with reports := r' :: y.reports, calls := b :: y.calls } := by
  refine ⟨?_, h.ending, .cons hcall h.calls, h.finishedAt⟩
  rw [List.map_cons, List.map_cons, hr, h.reports]

theorem RunContext.stepContext_equalApart (c : RunContext) (n : Instance) (step : Step)
    {secrets secrets' : ScopedSecrets} {names : List String}
    (h : secrets.values.EqualApart names secrets'.values) :
    (c.stepContext n secrets step).EqualApart names (c.stepContext n secrets' step) :=
  ⟨rfl, rfl, rfl, rfl, rfl, rfl, (Bindings.alikeBy_refl (fun _ _ => .inr rfl) _).insertAll h⟩

namespace Execution

variable {σ τ : Type} {c : RunContext} {store store' : SecretStore} {runner : StepRunner σ}
  {runner' : StepRunner τ} {n : Instance} {act : StepContext → StepRun} {start start' : Nat}

/-- Whether a step fails does not depend on the secrets, and of the reason only the message does. -/
theorem failure?_cases (e : StepEnd) (step : String) (secrets secrets' : ScopedSecrets) :
    (e.failure? step secrets = none ∧ e.failure? step secrets' = none) ∨
      ∃ reason reason', e.failure? step secrets = some reason ∧
        e.failure? step secrets' = some reason' ∧ reason.redacted = reason'.redacted := by
  cases e with
  | exited code success =>
    cases success
    · exact .inr ⟨_, _, rfl, rfl, rfl⟩
    · exact .inl ⟨rfl, rfl⟩
  | failed e => exact .inr ⟨_, _, rfl, rfl, rfl⟩

theorem redacted_stepReport (secrets secrets' : ScopedSecrets) (step : Step) (r : StepRun)
    (e : StepEnd) :
    (stepReport secrets step r e).redacted = (stepReport secrets' step r e).redacted := by
  have hstatus : status (e.failure? step.name secrets) step.continueOnError =
      status (e.failure? step.name secrets') step.continueOnError := by
    rcases failure?_cases e step.name secrets secrets' with ⟨hf, hf'⟩ | ⟨_, _, hf, hf', _⟩
    · rw [hf, hf']
    · rw [hf, hf']
      cases step.continueOnError <;> rfl
  simp only [stepReport, StepReport.redacted, hstatus, List.map_map]
  rfl

/-- Steps with other secrets go the same way under a runner that does not look at them. -/
theorem runSteps_equalApart (h : runner.IgnoresEnv act) (h' : runner'.IgnoresEnv act)
    {secrets secrets' : ScopedSecrets}
    (hs : secrets.values.EqualApart (n.job.secrets.map (·.name)) secrets'.values)
    {steps : List Step} (hsteps : ∀ step ∈ steps, step ∈ n.job.steps) {now now' : Nat}
    (hnow : now + start' = now' + start) (s : σ) (t : τ) :
    (runSteps c n secrets runner now s steps).1.EqualApart c n start start'
      (runSteps c n secrets' runner' now' t steps).1 := by
  induction steps generalizing now now' s t with
  | nil => exact ⟨rfl, rfl, .nil, hnow⟩
  | cons step rest ih =>
    obtain ⟨hstep, hrest⟩ := List.forall_mem_cons.mp hsteps
    have hx := h (c.stepContext n secrets step) s
    have hy := h' (c.stepContext n secrets' step) t
    have hcall : Call.Alike c n start start' ⟨now, c.stepContext n secrets step⟩
        ⟨now', c.stepContext n secrets' step⟩ :=
      ⟨hnow, ⟨step, hstep, secrets, secrets', rfl, rfl⟩, c.stepContext_equalApart n step hs⟩
    cases hrun : runner (c.stepContext n secrets step) s with
    | mk x s₁ =>
      cases hrun' : runner' (c.stepContext n secrets' step) t with
      | mk y t₁ =>
        rw [hrun] at hx
        rw [hrun'] at hy
        have hxy : x = y := hx.trans hy.symm
        subst hxy
        have hlater : now + x.elapsed + start' = now' + x.elapsed + start := by omega
        have hreport := redacted_stepReport secrets secrets' step x
        have hnext := ih hrest hlater s₁ t₁
        simp only [runSteps, hrun, hrun']
        cases x.ending with
        | none => exact ⟨rfl, rfl, .cons hcall .nil, hlater⟩
        | some e =>
          rcases failure?_cases e step.name secrets secrets' with
            ⟨hf, hf'⟩ | ⟨reason, reason', hf, hf', hreason⟩
          · simp only [hf, hf']
            exact hnext.cons (hreport e) hcall
          · simp only [hf, hf']
            cases step.continueOnError with
            | true => exact hnext.cons (hreport e) hcall
            | false =>
              refine ⟨?_, congrArg StepsEnd.failed hreason, .cons hcall .nil, hlater⟩
              rw [List.map_cons, List.map_cons, hreport]

/-- An execution goes the same way with other secrets by the same names. -/
theorem run_equalApart (h : runner.IgnoresEnv act) (h' : runner'.IgnoresEnv act)
    {cache cache' : SecretCache}
    (hres : ScopedSecrets.AlikeBy (fun name v w => name ∈ n.job.secrets.map (·.name) ∨ v = w)
      (ScopedSecrets.resolve store cache n.job.secrets).1
      (ScopedSecrets.resolve store' cache' n.job.secrets).1)
    {now now' : Nat} (hnow : now + start' = now' + start) (s : σ) (t : τ) :
    (run c store runner n now cache s).1.EqualApart c n start start'
      (run c store' runner' n now' cache' t).1 := by
  cases hx : ScopedSecrets.resolve store cache n.job.secrets with
  | mk x after =>
    cases hy : ScopedSecrets.resolve store' cache' n.job.secrets with
    | mk y after' =>
      rw [hx, hy] at hres
      simp only [run, hx, hy]
      cases hres with
      | failing e => exact ⟨rfl, .nil, hnow⟩
      | found hs =>
        have hsteps := runSteps_equalApart (c := c) h h' hs (fun _ hstep => hstep) hnow s t
        refine ⟨?_, hsteps.calls, hsteps.finishedAt⟩
        simp only [redacted_reportOfSteps, StepsRun.redacted, hsteps.reports, hsteps.ending]

end Execution

end GatedPipeline
