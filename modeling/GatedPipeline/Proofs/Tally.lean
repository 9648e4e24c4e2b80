import GatedPipeline.Proofs.PlannedRun

namespace GatedPipeline

/-- The state in which the instances of a category have ended. -/
def Category.state : Category → JobState
  | .succeeded => .succeeded
  | .failed => .failed
  | .skippedByCondition => .gatedSkip
  | .skippedByPropagation => .skipped

theorem Category.state_inj {c d : Category} : c.state = d.state ↔ c = d := by
  cases c <;> cases d <;> simp [state]

namespace InstanceReport

/-- The reason is one that is given for the state. -/
structure Consistent (r : InstanceReport) : Prop where
  succeeded : r.state = .succeeded ↔ r.reason = .succeeded
  failed : r.state = .failed ↔
    (∃ step exitCode message, r.reason = .stepFailed step exitCode message) ∨
      (∃ secret, r.reason = .missingCredential secret) ∨
        ∃ message, r.reason = .executionError message
  gatedSkip : r.state = .gatedSkip ↔ ∃ condition, r.reason = .skippedByCondition condition
  skipped : r.state = .skipped ↔ (∃ dependency, r.reason = .dependencyFailed dependency) ∨
    ∃ dependency, r.reason = .dependencySkipped dependency

variable {r : InstanceReport}

/-- It is enough that the state is that of the category: the reasons of a category are those that
are given for its state. -/
theorem consistent_of_state (h : r.state = r.reason.category.state) : r.Consistent := by
  cases hr : r.reason <;> rw [hr] at h <;> constructor <;>
    simp [h, hr, Reason.category, Category.state]

theorem Consistent.state_eq (h : r.Consistent) : r.state = r.reason.category.state := by
  cases hr : r.reason with
  | succeeded => exact h.succeeded.mpr hr
  | stepFailed step code message => exact h.failed.mpr (.inl ⟨step, code, message, hr⟩)
  | missingCredential secret => exact h.failed.mpr (.inr (.inl ⟨secret, hr⟩))
  | executionError message => exact h.failed.mpr (.inr (.inr ⟨message, hr⟩))
  | skippedByCondition condition => exact h.gatedSkip.mpr ⟨condition, hr⟩
  | dependencyFailed dependency => exact h.skipped.mpr (.inl ⟨dependency, hr⟩)
  | dependencySkipped dependency => exact h.skipped.mpr (.inr ⟨dependency, hr⟩)

end InstanceReport

namespace Execution

theorem consistent_reportOfSteps (n : Instance) (start : Nat) {r : StepsRun}
    (h : ∀ reason, r.ending = .failed reason → reason.category = .failed) :
    (reportOfSteps n start r).Consistent := by
  refine InstanceReport.consistent_of_state ?_
  unfold reportOfSteps
  split
  · rfl
  · rename_i reason hreason
    exact (congrArg Category.state (h reason hreason)).symm
  · rfl

/-- An execution gives a reason for the state in which it ends, however it ends. -/
theorem consistent_run {σ : Type} (c : RunContext) (store : SecretStore) (runner : StepRunner σ)
    (n : Instance) (now : Nat) (cache : SecretCache) (s : σ) :
    (run c store runner n now cache s).1.report.Consistent := by
  unfold run
  split
  · rename_i e _ _
    exact InstanceReport.consistent_of_state (by cases e <;> rfl)
  · refine consistent_reportOfSteps n now fun reason hreason => ?_
    obtain ⟨step, code, message, rfl⟩ := ending_runSteps hreason
    rfl

end Execution

theorem Progress.category_skipReason (g : JobGraph) (p : Progress) (cause : Nat) :
    (p.skipReason g cause).category = .skippedByPropagation := by
  unfold skipReason
  split <;> rfl

namespace Scheduler

variable {σ : Type} {c : RunContext} {store : SecretStore} {runner : StepRunner σ} {g : JobGraph}
  {now : Nat} {start : σ} {fs : List Flight} {s : Session σ} {r : InstanceReport}

/-- Gates, skips and executions, which are all that ends an instance, give reasons for the states
that they write. -/
theorem Ended.consistent (hg : g.Sound) (h : Ended g c.event fs s)
    (hc : Course c store runner g now start fs s) (hr : r ∈ s.progress.reports) :
    r.Consistent := by
  obtain ⟨i, hi⟩ := List.mem_iff_getElem?.mp hr
  obtain ⟨t, ht, hrep, _⟩ := h.slot_of_report hg hi
  have hstanding := h.steady.coherent.accurate.standing i t ht
  rcases hstanding.state_of_report (hrep ▸ Option.some_ne_none r) with hgated | hskipped | hstarted
  · obtain ⟨_, _, he⟩ := hstanding.report_of_gatedSkip hgated
    obtain rfl := Option.some.inj (hrep.symm.trans he)
    exact InstanceReport.consistent_of_state rfl
  · obtain ⟨_, cause, _, _, _, he⟩ := hstanding.report_of_skipped hskipped
    obtain rfl := Option.some.inj (hrep.symm.trans he)
    refine InstanceReport.consistent_of_state ?_
    rw [InstanceReport.notStarted, Progress.category_skipReason]
    rfl
  · obtain ⟨f, hf, _, _, hown⟩ := h.execution ht hstarted
    obtain rfl := Option.some.inj (hrep.symm.trans hown)
    obtain ⟨before, after, hsplit⟩ := List.append_of_mem hf
    obtain ⟨u, n, _, _, _, hrun⟩ := hc.execution hsplit
    rw [hrun]
    exact Execution.consistent_run c store runner n u.now u.cache u.runnerState

end Scheduler

namespace Summary

variable {reports : List InstanceReport}

/-- Every report is in one of the categories. -/
theorem total_ofReports (reports : List InstanceReport) :
    (ofReports reports).succeeded + (ofReports reports).failed +
      (ofReports reports).skippedByCondition + (ofReports reports).skippedByPropagation =
        reports.length := by
  induction reports with
  | nil => rfl
  | cons r reports ih =>
    simp only [ofReports, countOf] at ih
    simp only [ofReports, countOf, List.countP_cons, List.length_cons]
    cases r.reason.category <;> simp <;> omega

/-- Where states and reasons agree, the reports of a category are those in its state. -/
theorem countOf_eq (h : ∀ r ∈ reports, r.Consistent) (c : Category) :
    countOf reports c = reports.countP (·.state == c.state) := by
  refine List.countP_congr fun r hr => ?_
  rw [beq_iff_eq, beq_iff_eq, (h r hr).state_eq, Category.state_inj]

theorem ofReports_eq (h : ∀ r ∈ reports, r.Consistent) :
    ofReports reports =
      ⟨reports.countP (·.state == .succeeded), reports.countP (·.state == .failed),
        reports.countP (·.state == .gatedSkip), reports.countP (·.state == .skipped)⟩ := by
  simp only [ofReports, countOf_eq h, Category.state]

end Summary

theorem RunStatus.aggregate_eq_failed_iff (reports : List InstanceReport) :
    aggregate reports = .failed ↔ 0 < reports.countP (·.state == .failed) := by
  rw [List.countP_pos_iff, ← List.any_eq_true, aggregate]
  split <;> simp_all

namespace Pipeline

variable {σ : Type} {p : Pipeline} {setup : RunSetup σ} {event : Event} {s : σ}
  {record : RunRecord σ} {report : RunReport}

theorem execute_of_build {g : JobGraph} (hbuild : JobGraph.build p = .ok g)
    (haccept : Trigger.anyAccepts p.triggers event = true) (setup : RunSetup σ) (s : σ) :
    p.execute setup event s = .ok (p.executeGraph setup event g s) := by
  rw [execute, if_pos haccept, hbuild]
  rfl

theorem status_of_completed (h : p.execute setup event s = .ok record)
    (hcompleted : record.outcome = .completed report) :
    report.status = .aggregate report.instances := by
  unfold execute at h
  split at h
  · obtain ⟨g, _, rfl⟩ := JobGraph.map_eq_ok h
    cases hcompleted
    rfl
  · cases h
    cases hcompleted

/-- In a completed run the reason of every instance is one for its state. The counts of the summary,
which go by the reasons, are therefore those of the states and add up to the number of instances,
and the status, which goes by the states, is failure exactly where a failure is counted. -/
theorem execute_adds_up (h : p.execute setup event s = .ok record)
    (hcompleted : record.outcome = .completed report) :
    (∀ r ∈ report.instances, r.Consistent) ∧
      report.summary =
        ⟨report.instances.countP (·.state == .succeeded),
          report.instances.countP (·.state == .failed),
          report.instances.countP (·.state == .gatedSkip),
          report.instances.countP (·.state == .skipped)⟩ ∧
      (∃ g, JobGraph.build p = .ok g ∧
        report.summary.succeeded + report.summary.failed + report.summary.skippedByCondition +
          report.summary.skippedByPropagation = g.size) ∧
      report.status = .aggregate report.instances ∧
      (RunStatus.aggregate report.instances = .failed ↔ 0 < report.summary.failed) := by
  obtain ⟨-, g, fs, session, hbuild, hc, hended, hreports⟩ := ended_of_completed h hcompleted
  have hg := JobGraph.build_sound hbuild
  have hconsistent : ∀ r ∈ report.instances, r.Consistent := by
    rw [← hreports]
    exact fun r hr => hended.consistent hg hc hr
  have hsummary := Summary.ofReports_eq hconsistent
  refine ⟨hconsistent, hsummary, ⟨g, hbuild, ?_⟩, status_of_completed h hcompleted, ?_⟩
  · rw [RunReport.summary, Summary.total_ofReports, ← hreports, hended.length_reports hg]
  · rw [RunStatus.aggregate_eq_failed_iff, RunReport.summary, hsummary]

/-- For a tag the last job of the diamond fails for want of its secret. -/
theorem execute_adds_up_diamond :
    ∃ record report,
      JobGraph.diamond.execute quietSetup ⟨.tagPush, "refs/tags/v1"⟩ () = .ok record ∧
        record.outcome = .completed report ∧ (∀ r ∈ report.instances, r.Consistent) ∧
        report.status = .failed ∧ 0 < report.summary.failed := by
  have haccept :
      Trigger.anyAccepts JobGraph.diamond.triggers ⟨.tagPush, "refs/tags/v1"⟩ = true := rfl
  have hrecord := execute_of_build JobGraph.build_diamond haccept quietSetup ()
  obtain ⟨hconsistent, _, _, hstatus, hfailed⟩ := execute_adds_up hrecord rfl
  have hred : (JobGraph.diamond.reportOf quietSetup ⟨.tagPush, "refs/tags/v1"⟩
      (Scheduler.run (JobGraph.diamond.context quietSetup ⟨.tagPush, "refs/tags/v1"⟩) .empty
        (.scripted []) .byTime JobGraph.diamondGraph 0 ())).status = .failed := by decide +kernel
  exact ⟨_, _, hrecord, rfl, hconsistent, hred, hfailed.mp (hstatus.symm.trans hred)⟩

end Pipeline

end GatedPipeline
