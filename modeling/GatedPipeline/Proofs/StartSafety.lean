import GatedPipeline.Proofs.Conclusion

namespace GatedPipeline.Scheduler

variable {σ : Type} {c : RunContext} {store : SecretStore} {runner : StepRunner σ} {g : JobGraph}
  {now : Nat} {start : σ} {fs : List Flight} {s : Session σ} {event : Event} {f : Flight}

theorem Steady.node_of_start (h : Steady g event fs s) {i : Nat}
    (hi : .started i ∈ s.progress.milestones) : ∃ n, g.node? i = some n := by
  obtain ⟨state, hs, _⟩ := (h.coherent.logged.started i).mp hi
  obtain ⟨t, ht, _⟩ := Progress.state?_eq_some_iff.mp hs
  exact JobGraph.node?_of_lt (h.coherent.accurate.lt_size ht)

/-- What has been executed ends in neither of the states of a skipped instance, and it hands only
its own steps to the runner. -/
theorem Ended.handed (hg : g.Sound) (h : Ended g event fs s)
    (hc : Course c store runner g now start fs s) (hf : f ∈ fs) :
    ∃ n r, g.node? f.instanceNumber = some n ∧
      s.progress.reports[f.instanceNumber]? = some r ∧
      r.state ≠ .skipped ∧ r.state ≠ .gatedSkip ∧
      ∀ call ∈ f.run.calls, ∃ secrets, ∃ step ∈ n.job.steps,
        call.context = c.stepContext n secrets step := by
  obtain ⟨before, after, hsplit⟩ := List.append_of_mem hf
  obtain ⟨t, n, _, _, hn, hrun⟩ := hc.execution hsplit
  refine ⟨n, f.run.report, hn, h.report_of_mem hg hf, ?_, ?_, fun call hcall => ?_⟩
  · intro he
    rcases (h.steady.own f hf).2 with hs | hs <;> rw [he] at hs <;> cases hs
  · intro he
    rcases (h.steady.own f hf).2 with hs | hs <;> rw [he] at hs <;> cases hs
  · rw [hrun] at hcall
    exact Execution.context_of_mem_calls hcall

/-- Whenever an instance starts, its gate is open, each of its dependencies has finished before with
success, and it has not started before. Only what has started is executed, once each, and nothing of
an instance that ends skipped is handed to the runner. -/
theorem starts_follow_successes {p : Pipeline} {g : JobGraph} (h : JobGraph.build p = .ok g)
    (c : RunContext) (store : SecretStore) (runner : StepRunner σ) (order : CompletionOrder)
    (now : Nat) (start : σ) :
    (∀ before i after,
      (run c store runner order g now start).progress.milestones =
          before ++ .started i :: after →
        ∃ n, g.node? i = some n ∧ Condition.gateOpen n.condition c.event = true ∧
          (∀ d ∈ n.dependencies, ∃ r, .finished d r ∈ before ∧ r.state = .succeeded) ∧
          .started i ∉ before) ∧
      ∃ fs, Course c store runner g now start fs (run c store runner order g now start) ∧
        fs.map Flight.instanceNumber =
          Progress.startsIn (run c store runner order g now start).progress.milestones ∧
        (fs.map Flight.instanceNumber).Nodup ∧
        (run c store runner order g now start).calls = fs.flatMap (·.run.calls) ∧
        ∀ f ∈ fs, ∃ n r, g.node? f.instanceNumber = some n ∧
          (run c store runner order g now start).progress.reports[f.instanceNumber]? = some r ∧
          r.state ≠ .skipped ∧ r.state ≠ .gatedSkip ∧
          ∀ call ∈ f.run.calls, ∃ secrets, ∃ step ∈ n.job.steps,
            call.context = c.stepContext n secrets step := by
  have hg := JobGraph.build_sound h
  obtain ⟨fs, hc, he⟩ := course_lastSession hg c store runner order now start
  rw [run_eq hg]
  have hlogged := he.steady.coherent.logged
  refine ⟨fun before i after hsplit => ?_, fs, hc, he.steady.launched, he.steady.nodup,
    he.steady.calls, fun f hf => he.handed hg hc hf⟩
  obtain ⟨n, hn⟩ := he.steady.node_of_start (i := i) (by rw [hsplit]; simp)
  obtain ⟨ho, hdeps, hfirst⟩ := hlogged.orderly.before_start hsplit
  rw [gateOpen_of_node hn] at ho
  rw [JobGraph.dependencies_of_node? hn] at hdeps
  exact ⟨n, hn, ho, hdeps, hfirst⟩

/-- On a push to a branch, lint starts after build has succeeded. -/
theorem starts_follow_successes_diamond :
    JobGraph.build JobGraph.diamond = .ok JobGraph.diamondGraph ∧
      ∃ before after r,
        (run onPush .empty (.scripted []) .byTime JobGraph.diamondGraph 0
            ()).progress.milestones = before ++ .started 1 :: after ∧
          .finished 0 r ∈ before ∧ r.state = .succeeded := by
  refine ⟨JobGraph.build_diamond, ?_⟩
  have hstart : Milestone.started 1 ∈ (run onPush .empty (.scripted []) .byTime
      JobGraph.diamondGraph 0 ()).progress.milestones := by decide +kernel
  obtain ⟨before, after, hsplit⟩ := List.append_of_mem hstart
  obtain ⟨n, hn, _, hdeps, _⟩ := (starts_follow_successes JobGraph.build_diamond onPush .empty
    (.scripted []) .byTime 0 ()).1 before 1 after hsplit
  cases hn
  obtain ⟨r, hr, hs⟩ := hdeps 0 List.mem_cons_self
  exact ⟨before, after, r, hsplit, hr, hs⟩

end GatedPipeline.Scheduler
