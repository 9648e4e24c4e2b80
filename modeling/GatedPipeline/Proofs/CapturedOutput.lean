import GatedPipeline.Proofs.Masking
import GatedPipeline.Proofs.RunHistory

namespace GatedPipeline

namespace Execution

variable {σ : Type} {c : RunContext} {store : SecretStore} {runner : StepRunner σ} {n : Instance}
  {now : Nat} {cache : SecretCache} {s : σ}

theorem masked_of_mem_reports {secrets : ScopedSecrets} {steps : List Step} {report : StepReport}
    (h : report ∈ (runSteps c n secrets runner now s steps).1.reports)
    (hran : report.status ≠ .notRun) :
    ∃ lines : List String, report.output = lines.map secrets.mask := by
  induction steps generalizing now s with
  | nil => cases h
  | cons step rest ih =>
    unfold runSteps at h
    dsimp only at h
    split at h
    · cases h
    · split at h
      · rcases List.mem_cons.mp h with rfl | h
        · exact ⟨_, rfl⟩
        · obtain ⟨later, _, rfl⟩ := List.mem_map.mp h
          exact absurd rfl hran
      · rcases List.mem_cons.mp h with rfl | h
        · exact ⟨_, rfl⟩
        · exact ih h

/-- Whatever an execution reports of what its steps put out has been masked line by line. -/
theorem masked_of_mem_steps {step : StepReport}
    (h : step ∈ (run c store runner n now cache s).1.report.steps) (hran : step.status ≠ .notRun) :
    ∃ secrets, (ScopedSecrets.resolve store cache n.job.secrets).1 = .ok secrets ∧
      ∃ lines : List String, step.output = lines.map secrets.mask := by
  unfold run at h
  split at h
  · obtain ⟨later, _, rfl⟩ := List.mem_map.mp h
    exact absurd rfl hran
  · rename_i secrets _ hres
    refine ⟨secrets, congrArg Prod.fst hres, ?_⟩
    simp only [reportOfSteps] at h
    split at h
    · exact masked_of_mem_reports h hran
    · exact masked_of_mem_reports h hran
    · cases h

end Execution

/-- Lines that have been masked one by one. -/
theorem ScopedSecrets.not_occurs_lines {secrets : ScopedSecrets} {value : String}
    (hm : value ∈ secrets.values.map Prod.snd) (hv : value ≠ "") (hs : '*' ∉ value.toList)
    (lines : List String) :
    (∀ line ∈ lines.map secrets.mask, ¬ Text.Occurs value line) ∧
      ('\n' ∉ value.toList →
        ¬ Text.Occurs value ("\n".intercalate (lines.map secrets.mask))) := by
  have hline : ∀ line ∈ lines.map secrets.mask, ¬ Text.Occurs value line := by
    intro line hl
    obtain ⟨raw, _, rfl⟩ := List.mem_map.mp hl
    exact not_occurs_mask hm hv hs raw
  refine ⟨hline, fun hb ho => ?_⟩
  obtain ⟨line, hl, hin⟩ := Text.occurs_of_occurs_intercalate hv hb ho
  exact hline line hl hin

namespace Scheduler

variable {σ : Type} {c : RunContext} {store : SecretStore} {runner : StepRunner σ}
  {order : CompletionOrder} {g : JobGraph} {now : Nat} {start : σ} {fs : List Flight} {i : Nat}
  {n : Instance} {secrets : ScopedSecrets}

/-- The secrets that an instance gets where it is executed in a run. -/
inductive GetsSecrets (c : RunContext) (store : SecretStore) (runner : StepRunner σ)
    (order : CompletionOrder) (g : JobGraph) (now : Nat) (start : σ) (i : Nat)
    (secrets : ScopedSecrets) : Prop where
  | executed {fs before after : List Flight} {f : Flight} {t : Session σ} {n : Instance}
    (history : History c store runner order g now start fs) (split : fs = before ++ f :: after)
    (session : Course c store runner g now start before t) (number : f.instanceNumber = i)
    (node : g.node? i = some n)
    (run : f.run = (Execution.run c store runner n t.now t.cache t.runnerState).1)
    (found : (ScopedSecrets.resolve store t.cache n.job.secrets).1 = .ok secrets)

/-- An instance that starts gets what the providers answer to it. -/
theorem getsSecrets_of_started (hg : g.Sound)
    (hi : .started i ∈ (Scheduler.run c store runner order g now start).progress.milestones)
    (hn : g.node? i = some n) (hp : store.PlainFor g)
    (hres : (ScopedSecrets.resolve store [] n.job.secrets).1 = .ok secrets) :
    GetsSecrets c store runner order g now start i secrets := by
  obtain ⟨fs, h⟩ := exists_history hg c store runner order now start
  obtain ⟨f, hf, rfl⟩ := h.mem_of_started hi
  obtain ⟨before, after, t, m, hsplit, hc, hm, hrun⟩ := h.execution hf
  rw [hn, Option.some.injEq] at hm
  subst hm
  have hplain := hp.node hn
  refine .executed h hsplit hc rfl hn hrun ?_
  rw [ScopedSecrets.resolve_eq (hc.truthful hp) (SecretStore.truthful_nil store) hplain hplain
    fun _ _ => rfl, hres]

/-- Of a step that ran, the instance had its secrets, and no line that is reported shows one of
them. Nor do all lines together, if the secret is a text of one line. -/
theorem captured_output_masked {p : Pipeline} {g : JobGraph} (h : JobGraph.build p = .ok g)
    (c : RunContext) (store : SecretStore) (runner : StepRunner σ) (order : CompletionOrder)
    (now : Nat) (start : σ) {i : Nat} {r : InstanceReport} {step : StepReport}
    (hr : (run c store runner order g now start).progress.reports[i]? = some r)
    (hs : step ∈ r.steps) (hran : step.status ≠ .notRun) :
    (∃ secrets, GetsSecrets c store runner order g now start i secrets) ∧
      ∀ secrets, GetsSecrets c store runner order g now start i secrets →
        ∀ value ∈ secrets.values.map Prod.snd, value ≠ "" → '*' ∉ value.toList →
          (∀ line ∈ step.output, ¬ Text.Occurs value line) ∧
          ('\n' ∉ value.toList → ¬ Text.Occurs value ("\n".intercalate step.output)) := by
  have hg := JobGraph.build_sound h
  constructor
  · obtain ⟨fs, hfs⟩ := exists_history hg c store runner order now start
    obtain ⟨f, hf, rfl, rfl⟩ := hfs.execution_of_step hg hr hs
    obtain ⟨before, after, t, n, hsplit, hc, hn, hrun⟩ := hfs.execution hf
    rw [hrun] at hs
    obtain ⟨secrets, hres, _⟩ := Execution.masked_of_mem_steps hs hran
    exact ⟨secrets, .executed hfs hsplit hc rfl hn hrun hres⟩
  · -- Whichever history the secrets come from, its execution is the one that is reported.
    rintro secrets ⟨hfs, rfl, hc, rfl, hn, hrun, hres⟩ value hm hv hstar
    rename_i before after f t n
    have hown := hfs.reports f (List.mem_append_right _ List.mem_cons_self)
    rw [hr, Option.some.injEq, hrun] at hown
    rw [hown] at hs
    obtain ⟨secrets', hres', lines, hlines⟩ := Execution.masked_of_mem_steps hs hran
    cases Except.ok.inj (hres.symm.trans hres')
    rw [hlines]
    exact ScopedSecrets.not_occurs_lines hm hv hstar lines

/-- What publishing tells of its token is not reported. -/
theorem captured_output_masked_diamond :
    JobGraph.build JobGraph.diamond = .ok JobGraph.diamondGraph ∧
      ∃ r step,
        (run onTagPush (.holding [("TOKEN", "s3cret")]) (printing "make publish" ["to s3cret!"])
          .byTime JobGraph.diamondGraph 0 ()).progress.reports[3]? = some r ∧
        step ∈ r.steps ∧ step.status ≠ .notRun ∧
        ¬ Text.Occurs "s3cret" ("\n".intercalate step.output) := by
  have hreport : (run onTagPush (.holding [("TOKEN", "s3cret")])
      (printing "make publish" ["to s3cret!"]) .byTime JobGraph.diamondGraph 0
      ()).progress.reports[3]? = some ⟨⟨"publish", []⟩, .succeeded, .succeeded,
        [⟨"run", .succeeded, some 0, 0, ["to ***!"]⟩], some 0, some 0, some 0⟩ := by decide +kernel
  have hgets : GetsSecrets onTagPush (.holding [("TOKEN", "s3cret")])
      (printing "make publish" ["to s3cret!"]) .byTime JobGraph.diamondGraph 0 () 3
      ⟨[("TOKEN", "s3cret")]⟩ :=
    getsSecrets_of_started (JobGraph.build_sound JobGraph.build_diamond) (by decide +kernel) rfl
      (by decide +kernel) (by decide +kernel)
  exact ⟨JobGraph.build_diamond, _, _, hreport, List.mem_cons_self, by decide,
    ((captured_output_masked JobGraph.build_diamond onTagPush _ _ .byTime 0 () hreport
      List.mem_cons_self (by decide)).2 _ hgets "s3cret" (by decide) (by decide) (by decide)).2
      (by decide)⟩

def deployJob : Job := { JobGraph.plainJob "deploy" [] none with secrets := [.named "KEY"] }

def deploying : Pipeline := ⟨"deploying", none, [], [], [deployJob]⟩

def deployGraph : JobGraph := ⟨[⟨⟨"deploy", []⟩, deployJob, none, []⟩]⟩

theorem build_deploying : JobGraph.build deploying = .ok deployGraph := by
  have hjobs : JobGraph.parseConditions deploying.jobs = .ok [(deployJob, none)] := rfl
  exact JobGraph.build_of_stages (by decide +kernel) (by decide +kernel) hjobs rfl
    (by decide +kernel)

/-- A key of two lines that is put out line by line is reported in full. -/
theorem captured_output_shows_lines :
    JobGraph.build deploying = .ok deployGraph ∧
      GetsSecrets onPush (.holding [("KEY", "first\nsecond")])
        (printing "make deploy" ["first", "second"]) .byTime deployGraph 0 () 0
        ⟨[("KEY", "first\nsecond")]⟩ ∧
      ∃ r step,
        (run onPush (.holding [("KEY", "first\nsecond")])
          (printing "make deploy" ["first", "second"]) .byTime deployGraph 0
          ()).progress.reports[0]? = some r ∧
        step ∈ r.steps ∧ step.status ≠ .notRun ∧
        "first\nsecond" ≠ "" ∧ '*' ∉ "first\nsecond".toList ∧
        Text.Occurs "first\nsecond" ("\n".intercalate step.output) := by
  have hreport : (run onPush (.holding [("KEY", "first\nsecond")])
      (printing "make deploy" ["first", "second"]) .byTime deployGraph 0
      ()).progress.reports[0]? = some ⟨⟨"deploy", []⟩, .succeeded, .succeeded,
        [⟨"run", .succeeded, some 0, 0, ["first", "second"]⟩], some 0, some 0, some 0⟩ := by
    decide +kernel
  have hgets : GetsSecrets onPush (.holding [("KEY", "first\nsecond")])
      (printing "make deploy" ["first", "second"]) .byTime deployGraph 0 () 0
      ⟨[("KEY", "first\nsecond")]⟩ :=
    getsSecrets_of_started (JobGraph.build_sound build_deploying) (by decide +kernel) rfl
      (by decide +kernel) (by decide +kernel)
  exact ⟨build_deploying, hgets, _, _, hreport, List.mem_cons_self, by decide, by decide,
    by decide, by decide⟩

end Scheduler

end GatedPipeline
