import GatedPipeline.Proofs.Confluence
import GatedPipeline.Proofs.Downstream

namespace GatedPipeline

theorem JobState.blocksDependents_iff {state : JobState} :
    state.blocksDependents = true ↔ state = .failed ∨ state = .skipped ∨ state = .gatedSkip := by
  cases state <;> simp [blocksDependents]

namespace Scheduler

/-- An instance is skipped, its reason shows a dependency as it is displayed, and this dependency
has ended as the reason says. -/
inductive Blames (g : JobGraph) (reports : List InstanceReport) (i d : Nat) : Prop where
  | failure {r r' : InstanceReport} (report : reports[i]? = some r) (skipped : r.state = .skipped)
      (dependency : d ∈ g.dependencies i) (reason : r.reason = .dependencyFailed (g.display d))
      (cause : reports[d]? = some r') (ended : r'.state = .failed) : Blames g reports i d
  | skip {r r' : InstanceReport} (report : reports[i]? = some r) (skipped : r.state = .skipped)
      (dependency : d ∈ g.dependencies i) (reason : r.reason = .dependencySkipped (g.display d))
      (cause : reports[d]? = some r') (ended : r'.state = .skipped ∨ r'.state = .gatedSkip) :
      Blames g reports i d

/-- A chain of named dependencies leads from the instance to one that failed or was gated. -/
def Traceable (g : JobGraph) (reports : List InstanceReport) (i : Nat) : Prop :=
  ∃ origin r, Relation.TransGen (Blames g reports) i origin ∧ reports[origin]? = some r ∧
    (r.state = .failed ∨ r.state = .gatedSkip)

variable {σ : Type} {g : JobGraph} {reports : List InstanceReport} {i d : Nat}
  {r : InstanceReport}

theorem Blames.mem_dependencies (h : Blames g reports i d) : d ∈ g.dependencies i := by
  cases h <;> assumption

theorem Blames.ended (h : Blames g reports i d) :
    ∃ r', reports[d]? = some r' ∧
      (r'.state = .failed ∨ r'.state = .skipped ∨ r'.state = .gatedSkip) := by
  cases h with
  | failure _ _ _ _ cause ended => exact ⟨_, cause, .inl ended⟩
  | skip _ _ _ _ cause ended => exact ⟨_, cause, .inr ended⟩

theorem Blames.of_dependencyFailed (h : Blames g reports i d) (hr : reports[i]? = some r)
    {dependency : String} (hreason : r.reason = .dependencyFailed dependency) :
    g.display d = dependency ∧ ∃ r', reports[d]? = some r' ∧ r'.state = .failed := by
  cases h with
  | failure report _ _ named cause ended =>
    obtain rfl := Option.some.inj (hr.symm.trans report)
    exact ⟨Reason.dependencyFailed.inj (named.symm.trans hreason), _, cause, ended⟩
  | skip report _ _ named _ _ =>
    obtain rfl := Option.some.inj (hr.symm.trans report)
    cases named.symm.trans hreason

theorem Blames.of_dependencySkipped (h : Blames g reports i d) (hr : reports[i]? = some r)
    {dependency : String} (hreason : r.reason = .dependencySkipped dependency) :
    g.display d = dependency ∧
      ∃ r', reports[d]? = some r' ∧ (r'.state = .skipped ∨ r'.state = .gatedSkip) := by
  cases h with
  | failure report _ _ named _ _ =>
    obtain rfl := Option.some.inj (hr.symm.trans report)
    cases named.symm.trans hreason
  | skip report _ _ named cause ended =>
    obtain rfl := Option.some.inj (hr.symm.trans report)
    exact ⟨Reason.dependencySkipped.inj (named.symm.trans hreason), _, cause, ended⟩

theorem Traceable.of_blames (h : Blames g reports i d) (hd : Traceable g reports d) :
    Traceable g reports i := by
  obtain ⟨origin, r, hchain, hr⟩ := hd
  exact ⟨origin, r, .head h hchain, hr⟩

theorem NamesDependencies.exists_blames (h : NamesDependencies g reports)
    (hr : reports[i]? = some r) (hskip : r.state = .skipped) : ∃ d, Blames g reports i d := by
  obtain ⟨d, hdep, r', hr', hblocks, hreason⟩ := h i r hr hskip
  refine ⟨d, ?_⟩
  split at hreason
  · rename_i hfailed
    exact .failure hr hskip hdep hreason hr' hfailed
  · rename_i hne
    have hended := (JobState.blocksDependents_iff.mp hblocks).resolve_left hne
    exact .skip hr hskip hdep hreason hr' hended

/-- No skip is put down to itself in the end: the chain runs along dependencies, which are
founded. -/
theorem NamesDependencies.traceable (hg : g.Sound) (h : NamesDependencies g reports)
    (hr : reports[i]? = some r) (hskip : r.state = .skipped) : Traceable g reports i := by
  induction i using hg.founded.induction generalizing r with
  | _ i ih =>
    obtain ⟨d, hblames⟩ := h.exists_blames hr hskip
    obtain ⟨r', hr', hended⟩ := hblames.ended
    rcases hended with hfailed | hskipped | hgated
    · exact ⟨d, r', .single hblames, hr', .inl hfailed⟩
    · exact .of_blames hblames (ih d hblames.mem_dependencies hr' hskipped)
    · exact ⟨d, r', .single hblames, hr', .inr hgated⟩

/-- A skip that is put down to the failure of a dependency has a dependency of this display that
failed, one that is put down to a skip has one that was skipped or gated, and every skip can be
traced back to an instance that failed or was gated. -/
theorem skips_traceable {p : Pipeline} (h : JobGraph.build p = .ok g) (c : RunContext)
    (store : SecretStore) (runner : StepRunner σ) (order : CompletionOrder) (now : Nat)
    (start : σ) (hr : (run c store runner order g now start).progress.reports[i]? = some r)
    (hskip : r.state = .skipped) :
    (∀ dependency, r.reason = .dependencyFailed dependency →
        ∃ d ∈ g.dependencies i, g.display d = dependency ∧
          ∃ r', (run c store runner order g now start).progress.reports[d]? = some r' ∧
            r'.state = .failed) ∧
      (∀ dependency, r.reason = .dependencySkipped dependency →
        ∃ d ∈ g.dependencies i, g.display d = dependency ∧
          ∃ r', (run c store runner order g now start).progress.reports[d]? = some r' ∧
            (r'.state = .skipped ∨ r'.state = .gatedSkip)) ∧
      Traceable g (run c store runner order g now start).progress.reports i := by
  have hg := JobGraph.build_sound h
  rw [run_eq hg] at hr ⊢
  have hnames : NamesDependencies g
      (lastSession c store runner order g now start).progress.reports :=
    namesDependencies_lastSession hg
  obtain ⟨d, hblames⟩ := hnames.exists_blames hr hskip
  have hdep := hblames.mem_dependencies
  refine ⟨fun dependency hreason => ?_, fun dependency hreason => ?_,
    hnames.traceable hg hr hskip⟩
  · exact ⟨d, hdep, hblames.of_dependencyFailed hr hreason⟩
  · exact ⟨d, hdep, hblames.of_dependencySkipped hr hreason⟩

/-- The last job of the diamond is skipped because of a skip, which goes back to the failure of the
first. -/
theorem skips_traceable_diamond :
    JobGraph.build JobGraph.diamond = .ok JobGraph.diamondGraph ∧
      ∃ r, (run { onPush with event := ⟨.tagPush, "refs/tags/v1"⟩ } .empty
          (.scripted (failing "build")) .byTime JobGraph.diamondGraph 0
            ()).progress.reports[3]? = some r ∧
        r.state = .skipped ∧
        Traceable JobGraph.diamondGraph (run { onPush with event := ⟨.tagPush, "refs/tags/v1"⟩ }
          .empty (.scripted (failing "build")) .byTime JobGraph.diamondGraph 0
            ()).progress.reports 3 := by
  refine ⟨JobGraph.build_diamond, ?_⟩
  have hskipped : ((run { onPush with event := ⟨.tagPush, "refs/tags/v1"⟩ } .empty
      (.scripted (failing "build")) .byTime JobGraph.diamondGraph 0 ()).progress.reports[3]?).map
        (·.state) = some .skipped := by decide +kernel
  obtain ⟨r, hr, hstate⟩ := Option.map_eq_some_iff.mp hskipped
  exact ⟨r, hr, hstate, (skips_traceable JobGraph.build_diamond _ .empty _ .byTime 0 () hr
    hstate).2.2⟩

end Scheduler

end GatedPipeline
