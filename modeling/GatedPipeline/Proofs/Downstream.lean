import GatedPipeline.Proofs.DeclaredNeeds
import GatedPipeline.Proofs.Resolution

namespace GatedPipeline.Scheduler

variable {σ : Type} {g : JobGraph} {event : Event} {fs : List Flight} {s : Session σ} {i d : Nat}

/-- Skipped, or ended at its gate. -/
def Spared (s : Session σ) (i : Nat) : Prop :=
  s.progress.state? i = some .skipped ∨ s.progress.state? i = some .gatedSkip

theorem Spared.blocks (h : Spared s i) : s.progress.Blocks i := by
  rcases h with h | h
  · exact ⟨.skipped, h, rfl⟩
  · exact ⟨.gatedSkip, h, rfl⟩

theorem Steady.spared_of_dependency (h : Steady g event fs s) (hdep : d ∈ g.dependencies i)
    (hd : s.progress.Blocks d) : Spared s i := by
  have ha := h.coherent.accurate
  have hlt : i < s.progress.slots.length := ha.size.symm ▸ JobGraph.lt_of_mem_dependencies hdep
  obtain ⟨t, ht⟩ : ∃ t, s.progress.slots[i]? = some t := ⟨_, List.getElem?_eq_getElem hlt⟩
  have hstate := Progress.state?_of_slot ht
  cases ha.standing i t ht with
  | skipped => exact .inl hstate
  | gated => exact .inr hstate
  -- Nothing is due in a session, so nothing stays blocked behind `d`.
  | blocked w _ waits => cases waits d hdep hd
  -- What has started had only dependencies that succeeded.
  | running w _ released | ended w r _ released _ _ =>
    obtain ⟨state, hs, hblocks⟩ := hd
    rw [released d hdep, Option.some.injEq] at hs
    subst hs
    cases hblocks

/-- One ended instance without success spares all that depend on it, directly or through others. -/
theorem Steady.spared (h : Steady g event fs s)
    (hpath : Relation.TransGen (fun i d => d ∈ g.dependencies i) i d)
    (hd : s.progress.Blocks d) : Spared s i := by
  induction hpath using Relation.TransGen.head_induction_on with
  | single hdep => exact h.spared_of_dependency hdep hd
  | head hdep _ ih => exact h.spared_of_dependency hdep ih.blocks

theorem Ended.not_started (h : Ended g event fs s) (hi : Spared s i) :
    .started i ∉ s.progress.milestones := by
  intro hm
  obtain ⟨state, hs, hstarted⟩ := (h.steady.coherent.logged.started i).mp hm
  rcases hi with hi | hi <;> rw [hi, Option.some.injEq] at hs <;> subst hs <;> cases hstarted

/-- Once an instance of a job has ended without success, no instance starts of any job that needs
it directly or through jobs with instances: each one is skipped or ends at its gate. -/
theorem nothing_starts_downstream {p : Pipeline} (h : JobGraph.build p = .ok g)
    (c : RunContext) (store : SecretStore) (runner : StepRunner σ) (order : CompletionOrder)
    (now : Nat) (start : σ) {n m : Instance} {r : InstanceReport} (hm : g.node? d = some m)
    (hr : (run c store runner order g now start).progress.reports[d]? = some r)
    (hstate : r.state = .failed ∨ r.state = .skipped ∨ r.state = .gatedSkip)
    (hn : g.node? i = some n) (hneeds : p.NeedsThrough n.job.name m.job.name) :
    .started i ∉ (run c store runner order g now start).progress.milestones ∧
      ∃ r', (run c store runner order g now start).progress.reports[i]? = some r' ∧
        (r'.state = .skipped ∨ r'.state = .gatedSkip) := by
  have hg := JobGraph.build_sound h
  obtain ⟨fs, _, he⟩ := course_lastSession hg c store runner order now start
  rw [run_eq hg] at hr ⊢
  obtain ⟨u, hu, hended⟩ := he.report_state hg (JobGraph.lt_of_node? hm)
  rw [← Option.some.inj (hr.symm.trans hu)] at hended
  have hblocks : r.state.blocksDependents = true := by
    rcases hstate with hs | hs | hs <;> rw [hs] <;> rfl
  have hpath := (JobGraph.transGen_dependencies_iff h hn hm).mpr hneeds
  have hspared := he.steady.spared hpath ⟨r.state, hended, hblocks⟩
  obtain ⟨r', hr', hends⟩ := he.report_state hg (JobGraph.lt_of_node? hn)
  refine ⟨he.not_started hspared, r', hr', ?_⟩
  rw [Spared, hends, Option.some.injEq, Option.some.injEq] at hspared
  exact hspared

def failing (job : String) : Bindings ScriptedStep :=
  [("make " ++ job, { ScriptedStep.silent with exitCode := 1 })]

/-- The last job of the diamond needs the first through others. -/
theorem nothing_starts_downstream_diamond :
    JobGraph.build JobGraph.diamond = .ok JobGraph.diamondGraph ∧
      JobGraph.diamond.NeedsThrough "publish" "build" ∧
      .started 3 ∉ (run { onPush with event := ⟨.tagPush, "refs/tags/v1"⟩ } .empty
        (.scripted (failing "build")) .byTime JobGraph.diamondGraph 0 ()).progress.milestones := by
  have hlint : JobGraph.diamond.Needs "publish" "lint" := by decide +kernel
  have hbuild : JobGraph.diamond.Needs "lint" "build" := by decide +kernel
  have hneeds : JobGraph.diamond.NeedsThrough "publish" "build" :=
    .through hlint (by decide +kernel) (.direct hbuild)
  refine ⟨JobGraph.build_diamond, hneeds, ?_⟩
  have hfailed : ((run { onPush with event := ⟨.tagPush, "refs/tags/v1"⟩ } .empty
      (.scripted (failing "build")) .byTime JobGraph.diamondGraph 0 ()).progress.reports[0]?).map
        (·.state) = some .failed := by decide +kernel
  obtain ⟨r, hr, hstate⟩ := Option.map_eq_some_iff.mp hfailed
  exact (nothing_starts_downstream JobGraph.build_diamond _ .empty _ .byTime 0 () (d := 0)
    (i := 3) rfl hr (.inl hstate) rfl hneeds).1

/-- A job in the middle whose matrix has an axis without values, and so no instances. -/
def gap : Pipeline :=
  ⟨"gap", none, [], [],
    [JobGraph.plainJob "build" [] none,
      { JobGraph.plainJob "test" ["build"] none with matrix := some ⟨[⟨"os", []⟩], [], []⟩ },
      JobGraph.plainJob "publish" ["test"] none]⟩

def gapGraph : JobGraph :=
  ⟨[⟨⟨"build", []⟩, JobGraph.plainJob "build" [] none, none, []⟩,
    ⟨⟨"publish", []⟩, JobGraph.plainJob "publish" ["test"] none, none, []⟩]⟩

/-- A job without instances breaks the chain: a job starts although it needs, through that one, a
job that has failed. -/
theorem starts_beyond_gap :
    JobGraph.build gap = .ok gapGraph ∧ Relation.TransGen gap.Needs "publish" "build" ∧
      (gapGraph.node? 1).map (·.job.name) = some "publish" ∧
      ∃ r, (run onPush .empty (.scripted (failing "build")) .byTime gapGraph 0
          ()).progress.reports[0]? = some r ∧ r.id.job = "build" ∧ r.state = .failed ∧
        .started 1 ∈ (run onPush .empty (.scripted (failing "build")) .byTime gapGraph 0
          ()).progress.milestones := by
  have hbuild : JobGraph.build gap = .ok gapGraph :=
    JobGraph.build_of_stages (by decide +kernel) (by decide +kernel) rfl rfl (by decide +kernel)
  have htest : gap.Needs "publish" "test" := by decide +kernel
  have hfirst : gap.Needs "test" "build" := by decide +kernel
  have hrun : ((run onPush .empty (.scripted (failing "build")) .byTime gapGraph 0
      ()).progress.reports[0]?).map (fun r => (r.id.job, r.state)) = some ("build", .failed) := by
    decide +kernel
  obtain ⟨r, hr, he⟩ := Option.map_eq_some_iff.mp hrun
  obtain ⟨hjob, hstate⟩ := Prod.mk.inj he
  exact ⟨hbuild, .head htest (.single hfirst), rfl, r, hr, hjob, hstate, by decide +kernel⟩

end GatedPipeline.Scheduler
