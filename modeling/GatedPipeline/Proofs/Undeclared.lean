import GatedPipeline.Proofs.RunHistory
import GatedPipeline.Proofs.Timeless

namespace GatedPipeline.Scheduler

variable {σ τ : Type} {c : RunContext} {store store' : SecretStore} {runner : StepRunner σ}
  {runner' : StepRunner τ} {order order' : CompletionOrder} {g : JobGraph} {now now' : Nat}
  {start : σ} {start' : τ} {fs fs' : List Flight} {f f' : Flight} {n : Instance}
  {answer : StepContext → List String × Option StepEnd}

/-- Where an instance gets the same secrets whatever has been looked up, it is executed alike. -/
theorem History.alike (h : History c store runner order g now start fs)
    (h' : History c store' runner' order' g now' start' fs') (ha : runner.Answers answer)
    (ha' : runner'.Answers answer) (hf : f ∈ fs) (hf' : f' ∈ fs')
    (he : f.instanceNumber = f'.instanceNumber) (hn : g.node? f.instanceNumber = some n)
    (hres : ∀ before t before' t', Course c store runner g now start before t →
      Course c store' runner' g now' start' before' t' →
      (ScopedSecrets.resolve store t.cache n.job.secrets).1 =
        (ScopedSecrets.resolve store' t'.cache n.job.secrets).1) :
    f.run.Alike f'.run ∧ f.run.report.reason = f'.run.report.reason := by
  obtain ⟨before, _, t, m, _, hc, hm, hrun⟩ := h.execution hf
  obtain ⟨before', _, t', m', _, hc', hm', hrun'⟩ := h'.execution hf'
  rw [hn, Option.some.injEq] at hm
  rw [← he, hn, Option.some.injEq] at hm'
  subst hm hm'
  have halike := Execution.run_alike (c := c) ha ha' (hres before t before' t' hc hc') t.now t'.now
    t.runnerState t'.runnerState
  have hreason := congrArg InstanceReport.reason halike.report
  simp only [InstanceReport.timeless, Execution.anonymous_reason_run] at hreason
  rw [hrun, hrun']
  exact ⟨halike, hreason⟩

/-- Two stores that answer alike what a job declares are the same to its instances, whatever else
they hold and whatever else is looked up: of an instance that starts in both runs, the runner gets
the same steps in the same order, and it ends in the same state, for the same reason and with the
same reports of its steps, durations apart. For a job without secrets any two stores are. -/
theorem executions_see_declared_secrets {p : Pipeline} {g : JobGraph}
    (h : JobGraph.build p = .ok g) (c : RunContext) (ha : runner.Answers answer)
    (ha' : runner'.Answers answer) (store store' : SecretStore) (job : Job)
    (hsecrets : job.secrets = [] ∨
      (∀ j ∈ p.jobs, ∀ r ∈ j.secrets, ':' ∉ (store.providerName r).toList ∧
        ':' ∉ (store'.providerName r).toList) ∧
      ∀ r ∈ job.secrets, store.lookup r = store'.lookup r)
    (order order' : CompletionOrder) (now now' : Nat) (start : σ) (start' : τ) :
    ∃ fs fs', History c store runner order g now start fs ∧
      History c store' runner' order' g now' start' fs' ∧
      ∀ i n, g.node? i = some n → n.job = job →
        .started i ∈ (run c store runner order g now start).progress.milestones →
        .started i ∈ (run c store' runner' order' g now' start').progress.milestones →
        ∃ f ∈ fs, ∃ f' ∈ fs', f.instanceNumber = i ∧ f'.instanceNumber = i ∧
          f.run.calls.map Call.context = f'.run.calls.map Call.context ∧
          f.run.report.state = f'.run.report.state ∧
          f.run.report.reason = f'.run.report.reason ∧
          f.run.report.steps.map StepReport.timeless =
            f'.run.report.steps.map StepReport.timeless := by
  have hg := JobGraph.build_sound h
  obtain ⟨fs, hfs⟩ := exists_history hg c store runner order now start
  obtain ⟨fs', hfs'⟩ := exists_history hg c store' runner' order' now' start'
  refine ⟨fs, fs', hfs, hfs', fun i n hn hj hi hi' => ?_⟩
  obtain ⟨f, hf, rfl⟩ := hfs.mem_of_started hi
  obtain ⟨f', hf', hif⟩ := hfs'.mem_of_started hi'
  have hres : ∀ before t before' t', Course c store runner g now start before t →
      Course c store' runner' g now' start' before' t' →
      (ScopedSecrets.resolve store t.cache n.job.secrets).1 =
        (ScopedSecrets.resolve store' t'.cache n.job.secrets).1 := by
    intro before t before' t' hc hc'
    rcases hsecrets with hnone | ⟨hcolon, hsame⟩
    · rw [hj, hnone]
      rfl
    · have hp : store.PlainFor g :=
        SecretStore.plainFor_of_build h fun j hj r hr => (hcolon j hj r hr).1
      have hp' : store'.PlainFor g :=
        SecretStore.plainFor_of_build h fun j hj r hr => (hcolon j hj r hr).2
      exact ScopedSecrets.resolve_eq (hc.truthful hp) (hc'.truthful hp') (hp.node hn) (hp'.node hn)
        (hj ▸ hsame)
  obtain ⟨halike, hreason⟩ := hfs.alike hfs' ha ha' hf hf' hif.symm hn hres
  have hsteps := congrArg InstanceReport.steps halike.report
  exact ⟨f, hf, f', hf', rfl, hif, halike.contexts, halike.state, hreason, hsteps⟩

/-- What is published for a tag does not depend on a secret that publishing does not declare. -/
theorem executions_see_declared_secrets_diamond :
    JobGraph.build JobGraph.diamond = .ok JobGraph.diamondGraph ∧
      ∃ fs fs',
        History onTagPush (.holding [("TOKEN", "s3cret")]) (.scripted []) .byTime
          JobGraph.diamondGraph 0 () fs ∧
        History onTagPush (.holding [("OTHER", "other"), ("TOKEN", "s3cret")]) (.scripted [])
          .byTime JobGraph.diamondGraph 9 () fs' ∧
        ∃ f ∈ fs, ∃ f' ∈ fs', f.instanceNumber = 3 ∧ f'.instanceNumber = 3 ∧
          f.run.calls.map Call.context = f'.run.calls.map Call.context ∧
          f.run.report.state = f'.run.report.state := by
  obtain ⟨fs, fs', h, h', hsame⟩ := executions_see_declared_secrets JobGraph.build_diamond onTagPush
    (StepRunner.answers_scripted []) (StepRunner.answers_scripted [])
    (.holding [("TOKEN", "s3cret")]) (.holding [("OTHER", "other"), ("TOKEN", "s3cret")])
    JobGraph.publishJob (.inr ⟨by decide +kernel, by decide +kernel⟩) .byTime .byTime 0 9 () ()
  obtain ⟨f, hf, f', hf', hi, hi', hcalls, hstate, _⟩ :=
    hsame 3 _ rfl rfl (by decide +kernel) (by decide +kernel)
  exact ⟨JobGraph.build_diamond, fs, fs', h, h', f, hf, f', hf', hi, hi', hcalls, hstate⟩

end GatedPipeline.Scheduler
