import GatedPipeline.Proofs.Execution

namespace GatedPipeline

/-- A runner whose results, except for the time that they take, are a function of the context. -/
def StepRunner.Answers {σ : Type} (runner : StepRunner σ)
    (answer : StepContext → List String × Option StepEnd) : Prop :=
  ∀ c s, (runner c s).1.output = (answer c).1 ∧ (runner c s).1.ending = (answer c).2

theorem StepRunner.answers_scripted (script : Bindings ScriptedStep) :
    (scripted script).Answers fun c =>
      (((script.get? c.command).getD .silent).output,
        ((script.get? c.command).getD .silent).ending c) :=
  fun _ _ => ⟨rfl, rfl⟩

def StepReport.timeless (r : StepReport) : StepReport := { r with duration := 0 }

/-- The reason without the name of the dependency because of which an instance is skipped. -/
def Reason.anonymous : Reason → Reason
  | .dependencyFailed _ | .dependencySkipped _ => .dependencySkipped ""
  | r => r

/-- The report without its times; of those that are there it stays visible that they are. -/
def InstanceReport.timeless (r : InstanceReport) : InstanceReport :=
  { r with
    reason := r.reason.anonymous
    steps := r.steps.map StepReport.timeless
    startedAt := r.startedAt.map fun _ => 0
    completedAt := r.completedAt.map fun _ => 0
    duration := r.duration.map fun _ => 0 }

theorem Reason.category_anonymous (r : Reason) : r.anonymous.category = r.category := by
  cases r <;> rfl

theorem RunStatus.aggregate_timeless (rs : List InstanceReport) :
    aggregate (rs.map InstanceReport.timeless) = aggregate rs := by
  simp only [aggregate, List.any_map]
  rfl

theorem Summary.ofReports_timeless (rs : List InstanceReport) :
    ofReports (rs.map InstanceReport.timeless) = ofReports rs := by
  have hcount : ∀ c, countOf (rs.map InstanceReport.timeless) c = countOf rs c := by
    intro c
    rw [countOf, List.countP_map]
    refine List.countP_congr fun r _ => ?_
    simp only [Function.comp_apply, InstanceReport.timeless, r.reason.category_anonymous]
  simp only [ofReports, hcount]

/-- Two executions of steps that differ in their times only. -/
structure StepsRun.Alike (x y : StepsRun) : Prop where
  reports : x.reports.map StepReport.timeless = y.reports.map StepReport.timeless
  ending : x.ending = y.ending
  contexts : x.calls.map Call.context = y.calls.map Call.context

/-- Two executions of an instance that differ in their times only. -/
structure InstanceRun.Alike (x y : InstanceRun) : Prop where
  report : x.report.timeless = y.report.timeless
  contexts : x.calls.map Call.context = y.calls.map Call.context

theorem InstanceRun.Alike.state {x y : InstanceRun} (h : x.Alike y) :
    x.report.state = y.report.state := by
  have hs : x.report.timeless.state = y.report.timeless.state := by rw [h.report]
  exact hs

namespace Execution

variable {σ τ : Type} {c : RunContext} {store : SecretStore} {runner : StepRunner σ}
  {runner' : StepRunner τ} {n : Instance} {answer : StepContext → List String × Option StepEnd}

/-- Steps under runners with the same answers go the same way. -/
theorem runSteps_alike (h : runner.Answers answer) (h' : runner'.Answers answer)
    (secrets : ScopedSecrets) (steps : List Step) (now now' : Nat) (s : σ) (t : τ) :
    (runSteps c n secrets runner now s steps).1.Alike
      (runSteps c n secrets runner' now' t steps).1 := by
  induction steps generalizing now now' s t with
  | nil => exact ⟨rfl, rfl, rfl⟩
  | cons step rest ih =>
    obtain ⟨ho, he⟩ := h (c.stepContext n secrets step) s
    obtain ⟨ho', he'⟩ := h' (c.stepContext n secrets step) t
    cases hx : runner (c.stepContext n secrets step) s with
    | mk x s' =>
      cases hy : runner' (c.stepContext n secrets step) t with
      | mk y t' =>
        rw [hx] at ho he
        rw [hy] at ho' he'
        have hout : x.output = y.output := ho.trans ho'.symm
        have hend : x.ending = y.ending := he.trans he'.symm
        have hrest := ih (now + x.elapsed) (now' + y.elapsed) s' t'
        simp only [runSteps, hx, hy, ← hend]
        cases x.ending with
        | none => exact ⟨rfl, rfl, rfl⟩
        | some e =>
          have hreport : (stepReport secrets step x e).timeless =
              (stepReport secrets step y e).timeless := by
            simp only [stepReport, StepReport.timeless, hout]
          dsimp only
          split
          · refine ⟨?_, rfl, rfl⟩
            rw [List.map_cons, List.map_cons, hreport]
          · refine ⟨?_, hrest.ending, ?_⟩
            · rw [List.map_cons, List.map_cons, hreport, hrest.reports]
            · rw [List.map_cons, List.map_cons, hrest.contexts]

theorem reportOfSteps_timeless {x y : StepsRun} (h : x.Alike y) (n : Instance) (now now' : Nat) :
    (reportOfSteps n now x).timeless = (reportOfSteps n now' y).timeless := by
  unfold reportOfSteps
  rw [← h.ending]
  cases x.ending with
  | broken => rfl
  | succeeded | failed => simp only [InstanceReport.timeless, report, h.reports, Option.map_some]

/-- No execution gives a dependency as its reason. -/
theorem anonymous_reason_run (c : RunContext) (store : SecretStore) (runner : StepRunner σ)
    (n : Instance) (now : Nat) (cache : SecretCache) (s : σ) :
    (run c store runner n now cache s).1.report.reason.anonymous =
      (run c store runner n now cache s).1.report.reason := by
  unfold run
  split
  · rename_i e _ _
    cases e <;> rfl
  · rename_i secrets _ _
    rcases reason_reportOfSteps n now (runSteps c n secrets runner now s n.job.steps).1 with
      hr | hr | hr
    · exact hr ▸ rfl
    · obtain ⟨step, code, message, he⟩ := ending_runSteps hr
      exact he ▸ rfl
    · exact hr ▸ rfl

/-- With the same secrets an execution goes the same way at any time. -/
theorem run_alike (h : runner.Answers answer) (h' : runner'.Answers answer) {store' : SecretStore}
    {cache cache' : SecretCache}
    (hres : (ScopedSecrets.resolve store cache n.job.secrets).1 =
      (ScopedSecrets.resolve store' cache' n.job.secrets).1) (now now' : Nat) (s : σ) (t : τ) :
    (run c store runner n now cache s).1.Alike (run c store' runner' n now' cache' t).1 := by
  cases hx : ScopedSecrets.resolve store cache n.job.secrets with
  | mk x after =>
    cases hy : ScopedSecrets.resolve store' cache' n.job.secrets with
    | mk y after' =>
      rw [hx, hy] at hres
      have hxy : x = y := hres
      subst hxy
      simp only [run, hx, hy]
      cases x with
      | error e => exact ⟨rfl, rfl⟩
      | ok secrets =>
        have halike := runSteps_alike (c := c) (n := n) h h' secrets n.job.steps now now' s t
        exact ⟨reportOfSteps_timeless halike n now now', halike.contexts⟩

end Execution

end GatedPipeline
