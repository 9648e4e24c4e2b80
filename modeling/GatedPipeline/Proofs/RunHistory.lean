import GatedPipeline.Proofs.Agreement
import GatedPipeline.Proofs.Conclusion

namespace GatedPipeline

namespace SecretStore

/-- Whatever the instances of a graph declare is asked of providers without a colon in their
names. -/
def PlainFor (store : SecretStore) (g : JobGraph) : Prop :=
  ∀ n ∈ g.nodes, ∀ r ∈ n.job.secrets, store.Plain r

instance (store : SecretStore) (g : JobGraph) : Decidable (store.PlainFor g) :=
  inferInstanceAs (Decidable (∀ n ∈ g.nodes, ∀ r ∈ n.job.secrets, store.Plain r))

theorem PlainFor.node {store : SecretStore} {g : JobGraph} (h : store.PlainFor g) {i : Nat}
    {n : Instance} (hn : g.node? i = some n) : ∀ r ∈ n.job.secrets, store.Plain r :=
  h n (JobGraph.mem_nodes_of_node? hn)

theorem plainFor_of_build {store : SecretStore} {p : Pipeline} {g : JobGraph}
    (h : JobGraph.build p = .ok g) (hp : ∀ j ∈ p.jobs, ∀ r ∈ j.secrets, store.Plain r) :
    store.PlainFor g := by
  intro n hn
  obtain ⟨i, hi⟩ := List.mem_iff_getElem?.mp hn
  exact hp n.job (JobGraph.job_mem_of_build h hi)

end SecretStore

/-- What an execution leaves remembered is truthful. -/
theorem Execution.truthful_run {σ : Type} {c : RunContext} {store : SecretStore}
    {runner : StepRunner σ} {n : Instance} {now : Nat} {cache : SecretCache} {s : σ}
    (h : store.Truthful cache) (hp : ∀ r ∈ n.job.secrets, store.Plain r) :
    store.Truthful (run c store runner n now cache s).2.1 := by
  rw [cache_run]
  exact ScopedSecrets.truthful_resolveOnto h hp []

namespace Scheduler

variable {σ : Type} {c : RunContext} {store : SecretStore} {runner : StepRunner σ}
  {order : CompletionOrder} {g : JobGraph} {now : Nat} {start : σ} {fs : List Flight}
  {s : Session σ} {f : Flight} {i : Nat}

/-- In no session of a run is a secret remembered that its provider does not answer. -/
theorem Course.truthful (hc : Course c store runner g now start fs s)
    (hp : store.PlainFor g) : store.Truthful s.cache := by
  induction hc with
  | opening => exact SecretStore.truthful_nil store
  | @launched fs s i n _ _ hn ih =>
    rw [launch_of_node hn]
    exact Execution.truthful_run ih (hp.node hn)
  | landed _ _ _ ih => exact ih

/-- The executions of a run, in the order in which their instances started: the runner got the steps
of them and no others, and each of them is reported. -/
structure History (c : RunContext) (store : SecretStore) (runner : StepRunner σ)
    (order : CompletionOrder) (g : JobGraph) (now : Nat) (start : σ) (fs : List Flight) :
    Prop where
  course : Course c store runner g now start fs (run c store runner order g now start)
  starts : fs.map Flight.instanceNumber =
    Progress.startsIn (run c store runner order g now start).progress.milestones
  calls : (run c store runner order g now start).calls = fs.flatMap (·.run.calls)
  reports : ∀ f ∈ fs,
    (run c store runner order g now start).progress.reports[f.instanceNumber]? = some f.run.report

theorem exists_history (hg : g.Sound) (c : RunContext) (store : SecretStore)
    (runner : StepRunner σ) (order : CompletionOrder) (now : Nat) (start : σ) :
    ∃ fs, History c store runner order g now start fs := by
  obtain ⟨fs, hc, he⟩ := course_lastSession hg c store runner order now start
  have hrun := run_eq hg c store runner order now start
  exact ⟨fs, hrun ▸ hc, hrun ▸ he.steady.launched, hrun ▸ he.steady.calls,
    fun f hf => hrun ▸ he.report_of_mem hg hf⟩

/-- What has started has been executed. -/
theorem History.mem_of_started (h : History c store runner order g now start fs)
    (hi : .started i ∈ (run c store runner order g now start).progress.milestones) :
    ∃ f ∈ fs, f.instanceNumber = i := by
  rw [← Progress.mem_startsIn, ← h.starts] at hi
  exact List.mem_map.mp hi

theorem History.execution (h : History c store runner order g now start fs) (hf : f ∈ fs) :
    ∃ before after t n, fs = before ++ f :: after ∧
      Course c store runner g now start before t ∧ g.node? f.instanceNumber = some n ∧
      f.run = (Execution.run c store runner n t.now t.cache t.runnerState).1 := by
  obtain ⟨before, after, hsplit⟩ := List.append_of_mem hf
  obtain ⟨t, n, hc, _, hn, hrun⟩ := h.course.execution hsplit
  exact ⟨before, after, t, n, hsplit, hc, hn, hrun⟩

theorem History.ended (hg : g.Sound) (h : History c store runner order g now start fs) :
    Ended g c.event fs (run c store runner order g now start) := by
  obtain ⟨_, _, he⟩ := course_lastSession hg c store runner order now start
  rw [← run_eq hg] at he
  exact ⟨h.course.steady hg, he.idle, he.landed⟩

/-- A report of steps comes from an execution. -/
theorem History.execution_of_step (hg : g.Sound) (h : History c store runner order g now start fs)
    {r : InstanceReport} {step : StepReport}
    (hr : (run c store runner order g now start).progress.reports[i]? = some r)
    (hs : step ∈ r.steps) : ∃ f ∈ fs, f.instanceNumber = i ∧ f.run.report = r := by
  have he := h.ended hg
  obtain ⟨t, ht, hrep, _⟩ := he.slot_of_report hg hr
  have hstanding := he.steady.coherent.accurate.standing i t ht
  rcases hstanding.state_of_report (hrep ▸ Option.some_ne_none r) with hgated | hskipped | hstarted
  · obtain ⟨_, _, hown⟩ := hstanding.report_of_gatedSkip hgated
    cases Option.some.inj (hrep.symm.trans hown)
    cases hs
  · obtain ⟨_, _, _, _, _, hown⟩ := hstanding.report_of_skipped hskipped
    cases Option.some.inj (hrep.symm.trans hown)
    cases hs
  · obtain ⟨f, hf, hfi, _, hown⟩ := he.execution ht hstarted
    exact ⟨f, hf, hfi, Option.some.inj (hown.symm.trans hrep)⟩

def printing (command : String) (lines : List String) : StepRunner Unit :=
  .scripted [(command, { ScriptedStep.silent with output := lines })]

def onTagPush : RunContext := { onPush with event := ⟨.tagPush, "refs/tags/v1"⟩ }

end Scheduler

end GatedPipeline
